import Mathlib.Algebra.Order.Field.Power
import Mathlib.Algebra.Order.Field.Rat
import Mathlib.Tactic.NormNum
import Mathlib.Tactic.Positivity
import Mathlib.Tactic.Ring
import Whittle.Decimal.Scaled

/-!
# Finite numbers

Rounding a quotient that is not above the greatest finite number gives a finite
number again.  So integers of 64 bits are rounded to finite numbers, and a
decimal number that can be scaled at all is finite.
-/

namespace Whittle.Decimal

namespace Binary64

/-! ## Rounding -/

theorem infinityBits_eq : infinityBits = 2047 * 2 ^ 52 :=
  rfl

/-- The greatest finite number, as an integer. -/
def greatestFinite : Nat := (2 ^ 53 - 1) * 2 ^ 971

theorem sub_one_mul_two_pow_lt (bits places : Nat) :
    (2 ^ bits - 1) * 2 ^ places < 2 ^ (bits + places) := by
  rw [Nat.pow_add]
  exact Nat.mul_lt_mul_of_pos_right (Nat.sub_lt (Nat.two_pow_pos bits) Nat.one_pos)
    (Nat.two_pow_pos places)

theorem two_pow_le_sub_one_mul {bits low places : Nat} (positive : 0 < bits)
    (le : low ≤ places) : 2 ^ low ≤ (2 ^ bits - 1) * 2 ^ places := by
  have one : 1 ≤ 2 ^ bits - 1 := Nat.le_sub_of_add_le (Nat.pow_le_pow_right Nat.two_pos positive)
  calc
    2 ^ low ≤ 2 ^ places := Nat.pow_le_pow_right Nat.two_pos le
    _ ≤ (2 ^ bits - 1) * 2 ^ places := Nat.le_mul_of_pos_left _ one

theorem shiftLeft_le_mul {n m : Nat} (le : n ≤ m) (places : Nat) :
    n <<< places ≤ m * 2 ^ places := by
  rw [Nat.shiftLeft_eq]
  exact Nat.mul_le_mul_right _ le

theorem shiftLeft_add (n first second : Nat) :
    n <<< (first + second) = n * 2 ^ first * 2 ^ second := by
  rw [Nat.shiftLeft_eq, Nat.pow_add, Nat.mul_assoc]

/-- A quotient is rounded within integer bounds. -/
theorem roundDiv_le {numerator denominator bound : Nat} (positive : 0 < denominator)
    (le : numerator ≤ bound * denominator) : roundDiv numerator denominator ≤ bound := by
  have quotient : numerator / denominator ≤ bound :=
    Nat.div_le_of_le_mul (by rwa [Nat.mul_comm])
  have whole := Nat.div_add_mod numerator denominator
  rcases Nat.lt_or_eq_of_le quotient with below | reached
  · simp only [roundDiv]
    split <;> omega
  · have exact : numerator % denominator = 0 := by
      rw [reached, Nat.mul_comm] at whole
      omega
    simp [roundDiv, exact, positive, reached]

/-- The integer part of the binary logarithm of a quotient. -/
def ratioLog (numerator denominator : Nat) : Int :=
  let guess := (numerator.log2 : Int) - denominator.log2
  let reaches :=
    if 0 ≤ guess then denominator <<< guess.toNat ≤ numerator
    else denominator ≤ numerator <<< (-guess).toNat
  if reaches then guess else guess - 1

theorem magnitudeOfRatio_eq {numerator denominator : Nat} (above : numerator ≠ 0)
    (below : denominator ≠ 0) :
    magnitudeOfRatio numerator denominator =
      let scale := (ratioLog numerator denominator + 1022).toNat
      min ((scale <<< 52) + roundDiv (numerator <<< 1074) (denominator <<< scale))
        infinityBits := by
  rw [magnitudeOfRatio, if_neg (by simp [above, below])]
  rfl

section Ratio

variable {numerator denominator : Nat}

/-- A quotient reaches a power of two if it does so without division. -/
theorem zpow_le_ratio_iff (below : denominator ≠ 0) (exponent : Int) :
    (2 : ℚ) ^ exponent ≤ numerator / denominator ↔
      if 0 ≤ exponent then denominator <<< exponent.toNat ≤ numerator
      else denominator ≤ numerator <<< (-exponent).toNat := by
  have positive : (0 : ℚ) < denominator := by exact_mod_cast Nat.pos_of_ne_zero below
  rw [le_div_iff₀ positive]
  split
  · next upward =>
      obtain ⟨power, rfl⟩ := Int.eq_ofNat_of_zero_le upward
      rw [Nat.shiftLeft_eq, Nat.mul_comm]
      norm_cast
  · next downward =>
      obtain ⟨power, rfl⟩ : ∃ power : Nat, exponent = -power := ⟨(-exponent).toNat, by omega⟩
      rw [zpow_neg, inv_mul_le_iff₀ (by positivity), neg_neg, Int.toNat_natCast,
        Nat.shiftLeft_eq, Nat.mul_comm]
      norm_cast

/-- A quotient lies between the two powers of two next to its logarithm. -/
theorem ratioLog_bounds (above : numerator ≠ 0) (below : denominator ≠ 0) :
    (2 : ℚ) ^ ratioLog numerator denominator ≤ numerator / denominator ∧
      (numerator / denominator : ℚ) < 2 ^ (ratioLog numerator denominator + 1) := by
  have positive : (0 : ℚ) < denominator := by exact_mod_cast Nat.pos_of_ne_zero below
  let guess : Int := numerator.log2 - denominator.log2
  have ofNumerator : (2 : ℚ) ^ numerator.log2 ≤ numerator ∧
      (numerator : ℚ) < 2 ^ (numerator.log2 + 1) := by
    exact_mod_cast And.intro (Nat.log2_self_le above) Nat.lt_log2_self
  have ofDenominator : (2 : ℚ) ^ denominator.log2 ≤ denominator ∧
      (denominator : ℚ) < 2 ^ (denominator.log2 + 1) := by
    exact_mod_cast And.intro (Nat.log2_self_le below) Nat.lt_log2_self
  have atMost : (2 : ℚ) ^ (guess - 1) ≤ numerator / denominator := by
    have split : guess - 1 = (numerator.log2 : Int) - (denominator.log2 + 1 : Nat) := by
      simp only [guess]
      omega
    rw [split, zpow_sub₀ two_ne_zero, zpow_natCast, zpow_natCast]
    exact div_le_div₀ (by positivity) ofNumerator.1 positive ofDenominator.2.le
  have lessThan : (numerator / denominator : ℚ) < 2 ^ (guess + 1) := by
    have split : guess + 1 = (numerator.log2 + 1 : Nat) - (denominator.log2 : Int) := by
      simp only [guess]
      omega
    rw [split, zpow_sub₀ two_ne_zero, zpow_natCast, zpow_natCast]
    exact div_lt_div₀ ofNumerator.2 ofDenominator.1 (by positivity) (by positivity)
  have reaches : _ ↔ if 0 ≤ guess then denominator <<< guess.toNat ≤ numerator
      else denominator ≤ numerator <<< (-guess).toNat := zpow_le_ratio_iff below guess
  by_cases reached : (2 : ℚ) ^ guess ≤ numerator / denominator
  · have log : ratioLog numerator denominator = guess := if_pos (reaches.mp reached)
    rw [log]
    exact ⟨reached, lessThan⟩
  · have log : ratioLog numerator denominator = guess - 1 :=
      if_neg fun yes => reached (reaches.mpr yes)
    rw [log, sub_add_cancel]
    exact ⟨atMost, lt_of_not_ge reached⟩

/-- The scale of a quotient leaves it at most 53 bits. -/
theorem ratio_le_of_scale (below : denominator ≠ 0) {log : Int} {scale : Nat}
    (notReached : (numerator / denominator : ℚ) < 2 ^ (log + 1)) (scaled : log + 1022 ≤ scale) :
    numerator <<< 1074 ≤ 2 ^ 53 * denominator <<< scale := by
  have positive : (0 : ℚ) < denominator := by exact_mod_cast Nat.pos_of_ne_zero below
  have quotient : (numerator / denominator : ℚ) ≤ 2 ^ scale / 2 ^ 1021 := by
    refine notReached.le.trans ?_
    rw [← zpow_natCast, ← zpow_natCast, ← zpow_sub₀ two_ne_zero]
    exact zpow_le_zpow_right₀ one_le_two (by push_cast; omega)
  rw [div_le_div_iff₀ positive (by positivity)] at quotient
  have scaledUp : numerator * 2 ^ 1021 ≤ 2 ^ scale * denominator := by exact_mod_cast quotient
  calc
    numerator <<< 1074 = numerator * 2 ^ 1021 * 2 ^ 53 := shiftLeft_add numerator 1021 53
    _ ≤ 2 ^ scale * denominator * 2 ^ 53 := Nat.mul_le_mul_right _ scaledUp
    _ = 2 ^ 53 * denominator <<< scale := by
      rw [Nat.shiftLeft_eq, Nat.mul_comm, Nat.mul_comm (2 ^ scale)]

/-- Whatever is not above the greatest finite number stays finite. -/
theorem magnitudeOfRatio_lt (below : denominator ≠ 0)
    (le : numerator ≤ denominator * greatestFinite) :
    magnitudeOfRatio numerator denominator < infinityBits := by
  by_cases above : numerator = 0
  · rw [magnitudeOfRatio, if_pos (.inl above)]
    decide
  rcases ratioLog_bounds above below with ⟨reached, notReached⟩
  rw [magnitudeOfRatio_eq above below]
  generalize ratioLog numerator denominator = log at reached notReached
  have positive : (0 : ℚ) < denominator := by exact_mod_cast Nat.pos_of_ne_zero below
  have small : log < (53 + 971 : Nat) := by
    rw [← zpow_lt_zpow_iff_right₀ (one_lt_two : (1 : ℚ) < 2)]
    refine lt_of_le_of_lt reached ?_
    rw [div_lt_iff₀ positive, zpow_natCast, mul_comm]
    have less : numerator < denominator * 2 ^ (53 + 971) :=
      lt_of_le_of_lt le
        (Nat.mul_lt_mul_of_pos_left (sub_one_mul_two_pow_lt 53 971) (Nat.pos_of_ne_zero below))
    exact_mod_cast less
  have scaleSmall : (log + 1022).toNat ≤ 2045 := by omega
  have scaled : log + 1022 ≤ (log + 1022).toNat := Int.self_le_toNat _
  generalize (log + 1022).toNat = scale at scaleSmall scaled
  have shifted : 0 < denominator <<< scale := by
    rw [Nat.shiftLeft_eq]
    exact Nat.mul_pos (Nat.pos_of_ne_zero below) (Nat.two_pow_pos scale)
  have rounded : roundDiv (numerator <<< 1074) (denominator <<< scale) ≤ 2 ^ 53 :=
    roundDiv_le shifted (ratio_le_of_scale below notReached scaled)
  have roundedLast : scale = 2045 →
      roundDiv (numerator <<< 1074) (denominator <<< scale) ≤ 2 ^ 53 - 1 := by
    rintro rfl
    refine roundDiv_le shifted ?_
    calc
      numerator <<< 1074 ≤ denominator * greatestFinite * 2 ^ 1074 := shiftLeft_le_mul le 1074
      _ = (2 ^ 53 - 1) * (denominator * 2 ^ 971 * 2 ^ 1074) := by
        rw [greatestFinite, Nat.mul_left_comm, Nat.mul_assoc]
      _ = (2 ^ 53 - 1) * denominator <<< 2045 :=
        congrArg ((2 ^ 53 - 1) * ·) (shiftLeft_add denominator 971 1074).symm
  rw [infinityBits_eq]
  simp only [Nat.shiftLeft_eq scale]
  omega

end Ratio

/-! ## Finite numbers -/

theorem isFinite_ofMagnitude (negative : Bool) {magnitude : Nat}
    (finite : magnitude < infinityBits) : (ofMagnitude negative magnitude).isFinite = true := by
  rw [infinityBits_eq] at finite
  have bits : (ofMagnitude negative magnitude).bits.toNat % 2 ^ 63 = magnitude := by
    cases negative <;> simp [ofMagnitude, Nat.shiftLeft_eq] <;> omega
  have own : (ofMagnitude negative magnitude).magnitude = magnitude := bits
  rw [isFinite, own, infinityBits_eq]
  exact decide_eq_true finite

theorem isFinite_ofRatio (negative : Bool) {numerator denominator : Nat}
    (below : denominator ≠ 0) (le : numerator ≤ denominator * greatestFinite) :
    (ofRatio negative numerator denominator).isFinite = true :=
  isFinite_ofMagnitude negative (magnitudeOfRatio_lt below le)

theorem isFinite_ofRatio_one (negative : Bool) {size : Nat} (le : size ≤ 2 ^ 64) :
    (ofRatio negative size 1).isFinite = true := by
  have small : 2 ^ 64 ≤ greatestFinite := two_pow_le_sub_one_mul (by decide) (by decide)
  refine isFinite_ofRatio negative one_ne_zero ?_
  rw [Nat.one_mul]
  exact le.trans small

theorem isFinite_ofInt {n : Int} (le : n.natAbs ≤ 2 ^ 64) : (ofInt n).isFinite = true :=
  isFinite_ofRatio_one _ le

theorem isFinite_neg {x : Binary64} (finite : x.isFinite = true) : x.neg.isFinite = true :=
  isFinite_ofMagnitude _ (of_decide_eq_true finite)

/-- The value of a finite number, counted in the smallest numbers. -/
theorem significand_shiftLeft_le {x : Binary64} (finite : x.isFinite = true) :
    x.significand <<< x.scale ≤ greatestFinite * 2 ^ 1074 := by
  have bound : x.magnitude < 2047 * 2 ^ 52 := of_decide_eq_true finite
  have fraction : x.magnitude % (1 <<< 52) < 2 ^ 52 := Nat.mod_lt _ (by decide)
  have significandSmall : x.significand ≤ 2 ^ 53 - 1 := by
    simp only [significand]
    split <;> omega
  have scaleSmall : x.scale ≤ 971 + 1074 := by
    simp only [scale, Nat.shiftRight_eq_div_pow]
    omega
  calc
    x.significand <<< x.scale ≤ (2 ^ 53 - 1) * 2 ^ x.scale := shiftLeft_le_mul significandSmall _
    _ ≤ (2 ^ 53 - 1) * 2 ^ (971 + 1074) :=
      Nat.mul_le_mul_left _ (pow_le_pow_right₀ one_le_two scaleSmall)
    _ = greatestFinite * 2 ^ 1074 := by
      rw [pow_add, greatestFinite, Nat.mul_assoc]

theorem isFinite_divMagnitude {x y : Binary64} (finite : x.isFinite = true)
    (atLeastOne : 2 ^ 1074 ≤ y.significand <<< y.scale) : (x.divMagnitude y).isFinite = true := by
  refine isFinite_ofRatio false ?_ ?_
  · exact (lt_of_lt_of_le (pow_pos two_pos 1074) atLeastOne).ne'
  · calc
      x.significand <<< x.scale ≤ greatestFinite * 2 ^ 1074 := significand_shiftLeft_le finite
      _ ≤ greatestFinite * y.significand <<< y.scale := Nat.mul_le_mul_left _ atLeastOne
      _ = y.significand <<< y.scale * greatestFinite := Nat.mul_comm ..

theorem powerOfTen_atLeastOne : ∀ exponent ≤ largestPower,
    2 ^ 1074 ≤ (powerOfTen exponent).significand <<< (powerOfTen exponent).scale := by
  decide +kernel

end Binary64

open Binary64

theorem isFinite_divByPower {x : Binary64} (finite : x.isFinite = true) (exponent : Nat) :
    (divByPower x exponent).isFinite = true := by
  fun_induction divByPower x exponent with
  | case1 x exponent small => exact isFinite_divMagnitude finite (powerOfTen_atLeastOne _ small)
  | case2 x exponent large zero => exact finite
  | case3 x exponent large notZero ih =>
      exact ih (isFinite_divMagnitude finite (powerOfTen_atLeastOne _ le_rfl))

theorem isFinite_of_mulByPower? {x value : Binary64} (finite : x.isFinite = true) {exponent : Nat}
    (scaled : mulByPower? x exponent = some value) : value.isFinite = true := by
  simp only [mulByPower?] at scaled
  split at scaled
  · split at scaled
    · next small => exact Option.some.inj scaled ▸ small
    · cases scaled
  · split at scaled
    · exact Option.some.inj scaled ▸ finite
    · cases scaled

/-- What is scaled is finite. -/
theorem isFinite_of_scaled? {negative : Bool} {significand : Nat} {exponent : Int}
    {value : Binary64} (fits : significand ≤ 2 ^ 64)
    (scaled : scaled? negative significand exponent = some value) : value.isFinite = true := by
  have start := isFinite_ofRatio_one false fits
  have signed : ∀ size : Binary64, size.isFinite = true →
      (if negative then size.neg else size).isFinite = true := by
    intro size finite
    split
    · exact isFinite_neg finite
    · exact finite
  simp only [scaled?] at scaled
  split at scaled
  · rcases Option.bind_eq_some_iff.mp scaled with ⟨size, ofSize, same⟩
    exact Option.some.inj same ▸ signed size (isFinite_of_mulByPower? start ofSize)
  · exact Option.some.inj scaled ▸ signed _ (isFinite_divByPower start _)

end Whittle.Decimal
