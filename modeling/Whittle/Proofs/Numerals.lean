import Whittle.Decimal.Notation

/-!
# The characters of numbers

Numbers are written with digits, a sign, a point and the letter of the exponent.
A rule that allows these characters holds for all of a number, except for the
words for what is not finite.
-/

namespace Whittle.Decimal

/-- A rule for characters that allows all that finite numbers are written with. -/
structure AllowsNumbers (rule : Char → Prop) : Prop where
  digit : ∀ c, c.isDigit = true → rule c
  minus : rule '-'
  point : rule '.'
  exponent : rule 'e'

variable {rule : Char → Prop} (allows : AllowsNumbers rule)

include allows

namespace AllowsNumbers

theorem digitsOf (n : Nat) : ∀ c ∈ digitsOf n, rule c :=
  fun c member => allows.digit c (Nat.isDigit_of_mem_toDigits (by decide) (by decide) member)

theorem ofInt (n : Int) : ∀ c ∈ ofInt n, rule c := by
  have ofSize := allows.digitsOf n.natAbs
  unfold Decimal.ofInt
  split
  · exact List.forall_mem_cons.mpr ⟨allows.minus, ofSize⟩
  · exact ofSize

theorem positional {digits : List Char} (ofDigits : ∀ c ∈ digits, rule c) (whole : Int) :
    ∀ c ∈ NumberFormat.positional digits whole, rule c := by
  have zero : rule '0' := allows.digit '0' (by decide)
  have zeros (count : Nat) : ∀ c ∈ List.replicate count '0', rule c := by
    intro c member
    rwa [List.eq_of_mem_replicate member]
  have integral : ∀ c ∈ digits.take whole.toNat, rule c :=
    fun c member => ofDigits c (List.mem_of_mem_take member)
  have fraction : ∀ c ∈ digits.drop whole.toNat, rule c :=
    fun c member => ofDigits c (List.mem_of_mem_drop member)
  unfold NumberFormat.positional
  split
  · simpa [zero, allows.point, or_imp, forall_and] using ofDigits
  · dsimp only
    split <;> simp_all [or_imp, allows.point]

theorem scientific {digits : List Char} (ofDigits : ∀ c ∈ digits, rule c) (exponent : Int) :
    ∀ c ∈ NumberFormat.scientific digits exponent, rule c := by
  have power := allows.ofInt exponent
  unfold NumberFormat.scientific
  split <;> simp_all [or_imp, forall_and, allows.point, allows.exponent]

theorem ofPositive (format : NumberFormat) (x : Binary64) :
    ∀ c ∈ format.ofPositive x, rule c := by
  unfold NumberFormat.ofPositive
  dsimp only
  split
  · exact allows.positional (allows.digitsOf _) _
  · exact allows.scientific (allows.digitsOf _) _

/-- A format brings in no characters of its own: its two words are all it adds to the digits. -/
theorem write {format : NumberFormat} (infinity : ∀ c ∈ format.infinity.toList, rule c)
    (notANumber : ∀ c ∈ format.notANumber.toList, rule c) (x : Binary64) :
    ∀ c ∈ format.write x, rule c := by
  have zero : rule '0' := allows.digit '0' (by decide)
  have positive := allows.ofPositive format x
  have point := allows.point
  have minus := allows.minus
  unfold NumberFormat.write
  repeat' split
  all_goals simp_all [or_imp]

end AllowsNumbers

end Whittle.Decimal
