import Mathlib.Algebra.Group.Nat.Defs
import Whittle.Text.Utf8

/-!
# Bytes as text

What bytes are read as is said without a reader (`ReadsAs`): they are divided
into the codes of characters, into longest pieces that begin such a code without
completing it, and into bytes that begin none; the last two are read as one
replacement character each.  The reader keeps in `Pending` what the first bytes
of a code say about the character: its codes are those that go on in the
interval of the next byte (`Pending.Fits`).  From that, `readsAs_iff` says that
the reader finds the one text that bytes are read as.
-/

namespace Whittle.Text.Utf8

/-! ## Codes -/

/-- The bytes begin the code of a character. -/
def Begins (piece : List UInt8) : Prop :=
  ∃ c, piece <+: String.utf8EncodeChar c

/-- What bytes are read as. -/
inductive ReadsAs : List UInt8 → List Char → Prop
  | nil : ReadsAs [] []
  | char (c : Char) {rest : List UInt8} {text : List Char} (others : ReadsAs rest text) :
      ReadsAs (String.utf8EncodeChar c ++ rest) (c :: text)
  /-- A piece that goes on in some codes, but not with the byte that comes next. -/
  | piece {piece rest : List UInt8} {text : List Char} (filled : piece ≠ [])
      (goesOn : ∃ next, Begins (piece ++ [next]))
      (stops : ∀ next, rest.head? = some next → ¬ Begins (piece ++ [next]))
      (others : ReadsAs rest text) : ReadsAs (piece ++ rest) (replacement :: text)
  | stray {byte : UInt8} {rest : List UInt8} {text : List Char} (foreign : ¬ Begins [byte])
      (others : ReadsAs rest text) : ReadsAs (byte :: rest) (replacement :: text)

/-- The first byte of the code of a value. -/
def lead (value : Nat) : Nat :=
  if value ≤ 0x7F then value
  else if value ≤ 0x7FF then value / 64 + 0xC0
  else if value ≤ 0xFFFF then value / 4096 + 0xE0
  else value / 262144 + 0xF0

/-- How many bytes of a code there are after the first one. -/
def further (value : Nat) : Nat :=
  if value ≤ 0x7F then 0 else if value ≤ 0x7FF then 1 else if value ≤ 0xFFFF then 2 else 3

/-- The given number of bytes at the end of the code of a value. -/
def trail : Nat → Nat → List UInt8
  | 0, _ => []
  | count + 1, value => UInt8.ofNat (value / 64 ^ count % 64 + 0x80) :: trail count value

theorem length_trail (count value : Nat) : (trail count value).length = count := by
  induction count with
  | zero => rfl
  | succ count ih => rw [trail, List.length_cons, ih]

/-- The code of a character is a first byte and those of its trail. -/
theorem code_eq (c : Char) :
    String.utf8EncodeChar c = UInt8.ofNat (lead c.toNat) :: trail (further c.toNat) c.toNat := by
  have valid : c.toNat.isValidChar := c.valid
  have same : c.val.toNat = c.toNat := rfl
  simp only [String.utf8EncodeChar, same, lead, further]
  split
  · rfl
  · split
    · rw [Nat.mod_eq_of_lt (by omega)]
      simp [trail]
    · split
      · rw [Nat.mod_eq_of_lt (by omega)]
        simp [trail]
      · rw [Nat.mod_eq_of_lt (by omega)]
        simp [trail]

theorem lead_lt (c : Char) : lead c.toNat < 256 := by
  have valid : c.toNat.isValidChar := c.valid
  unfold lead
  split
  · omega
  · split
    · omega
    · split <;> omega

theorem further_eq_zero {value : Nat} (small : lead value < 0x80) : further value = 0 := by
  unfold lead at small
  unfold further
  split at small
  · rw [if_pos ‹_›]
  · split at small
    · omega
    · split at small <;> omega

theorem toNat_ofNat {value : Nat} (valid : value.isValidChar) :
    (Char.ofNat value).toNat = value := by
  rw [Char.ofNat, dif_pos valid]
  rfl

/-- A byte begins a code if it is the first byte of one. -/
theorem begins_singleton_iff (byte : UInt8) :
    Begins [byte] ↔ ∃ value, value.isValidChar ∧ lead value = byte.toNat := by
  constructor
  · rintro ⟨c, begins⟩
    rw [code_eq, List.cons_prefix_cons] at begins
    refine ⟨c.toNat, c.valid, ?_⟩
    rw [begins.1, UInt8.toNat_ofNat_of_lt' (lead_lt c)]
  · rintro ⟨value, valid, isLead⟩
    refine ⟨Char.ofNat value, ?_⟩
    rw [code_eq, toNat_ofNat valid, isLead, UInt8.ofNat_toNat]
    exact List.cons_prefix_cons.mpr ⟨rfl, List.nil_prefix⟩

/-! ## What the reader waits for -/

namespace Pending

/-- Whether a value has the bits that were read, and the next ones are in the interval. -/
def Admits (pending : Pending) (value : Nat) : Prop :=
  value / 64 ^ pending.missing = pending.value ∧
    pending.least ≤ value / 64 ^ (pending.missing - 1) % 64 + 0x80 ∧
      value / 64 ^ (pending.missing - 1) % 64 + 0x80 ≤ pending.greatest

/-- What the first byte of a code announces, by the number of bytes that follow it. -/
theorem ofLead_eq_some_iff (byte : Nat) (pending : Pending) :
    ofLead byte = some pending ↔
      (0xC2 ≤ byte ∧ byte ≤ 0xDF ∧ pending = ⟨byte - 0xC0, 1, 0x80, 0xBF⟩) ∨
      (0xE0 ≤ byte ∧ byte ≤ 0xEF ∧ pending =
        ⟨byte - 0xE0, 2, if byte = 0xE0 then 0xA0 else 0x80,
          if byte = 0xED then 0x9F else 0xBF⟩) ∨
      (0xF0 ≤ byte ∧ byte ≤ 0xF4 ∧ pending =
        ⟨byte - 0xF0, 3, if byte = 0xF0 then 0x90 else 0x80,
          if byte = 0xF4 then 0x8F else 0xBF⟩) := by
  simp only [ofLead, Bool.and_eq_true, decide_eq_true_eq, beq_iff_eq]
  grind

/-- What is announced by a byte are the characters whose codes it begins. -/
theorem admits_iff_of_ofLead {byte : Nat} {pending : Pending}
    (announced : ofLead byte = some pending) (value : Nat) :
    pending.Admits value ↔ value.isValidChar ∧ lead value = byte := by
  rw [ofLead_eq_some_iff] at announced
  rcases announced with ⟨least, greatest, rfl⟩ | ⟨least, greatest, rfl⟩ | ⟨least, greatest, rfl⟩
  · simp only [Admits, lead]
    grind
  · simp only [Admits, lead]
    grind
  · simp only [Admits, lead]
    grind

theorem further_of_admits {byte : Nat} {pending : Pending}
    (announced : ofLead byte = some pending) {value : Nat} (admitted : pending.Admits value) :
    further value = pending.missing := by
  rw [ofLead_eq_some_iff] at announced
  rcases announced with ⟨least, greatest, rfl⟩ | ⟨least, greatest, rfl⟩ | ⟨least, greatest, rfl⟩
  · simp only [Admits, further] at admitted ⊢
    grind
  · simp only [Admits, further] at admitted ⊢
    grind
  · simp only [Admits, further] at admitted ⊢
    grind

theorem bounds_of_ofLead {byte : Nat} {pending : Pending}
    (announced : ofLead byte = some pending) :
    0 < pending.missing ∧ 0x80 ≤ pending.least ∧ pending.least ≤ pending.greatest ∧
      pending.greatest ≤ 0xBF := by
  rw [ofLead_eq_some_iff] at announced
  rcases announced with ⟨-, -, rfl⟩ | ⟨-, -, rfl⟩ | ⟨-, -, rfl⟩ <;> grind

/-- The reader has read a piece, and waits for what goes on in the codes that the piece begins. -/
structure Fits (pending : Pending) (piece : List UInt8) : Prop where
  missing_pos : 0 < pending.missing
  le_least : 0x80 ≤ pending.least
  least_le_greatest : pending.least ≤ pending.greatest
  greatest_le : pending.greatest ≤ 0xBF
  valid : ∀ value, pending.Admits value → value.isValidChar
  code : ∀ c : Char, pending.Admits c.toNat →
    String.utf8EncodeChar c = piece ++ trail pending.missing c.toNat
  admits : ∀ c : Char, piece <+: String.utf8EncodeChar c → pending.Admits c.toNat

theorem fits_of_ofLead {byte : UInt8} {pending : Pending}
    (announced : ofLead byte.toNat = some pending) : pending.Fits [byte] where
  missing_pos := (bounds_of_ofLead announced).1
  le_least := (bounds_of_ofLead announced).2.1
  least_le_greatest := (bounds_of_ofLead announced).2.2.1
  greatest_le := (bounds_of_ofLead announced).2.2.2
  valid value admitted := ((admits_iff_of_ofLead announced value).mp admitted).1
  code c admitted := by
    have isLead := ((admits_iff_of_ofLead announced c.toNat).mp admitted).2
    rw [code_eq, isLead, further_of_admits announced admitted, UInt8.ofNat_toNat]
    rfl
  admits c begins := by
    rw [code_eq, List.cons_prefix_cons] at begins
    refine (admits_iff_of_ofLead announced c.toNat).mpr ⟨c.valid, ?_⟩
    rw [begins.1, UInt8.toNat_ofNat_of_lt' (lead_lt c)]

/-- Whether a byte can be the next one. -/
def Takes (pending : Pending) (byte : UInt8) : Prop :=
  pending.least ≤ byte.toNat ∧ byte.toNat ≤ pending.greatest

/-- The value with the lower six bits of one more byte. -/
def extended (pending : Pending) (byte : UInt8) : Nat :=
  pending.value * 64 + byte.toNat % 64

/-- What is pending after one more byte that is not the last one. -/
def next (pending : Pending) (byte : UInt8) : Pending :=
  ⟨pending.extended byte, pending.missing - 1, 0x80, 0xBF⟩

section Fits

variable {pending : Pending} {piece : List UInt8} (fits : pending.Fits piece)
include fits

/-- Values that are admitted and go on with a byte are those that extend the value by it. -/
theorem Fits.extended_iff {byte : UInt8} (takes : pending.Takes byte) (value : Nat) :
    value / 64 ^ (pending.missing - 1) = pending.extended byte ↔
      pending.Admits value ∧ value / 64 ^ (pending.missing - 1) % 64 + 0x80 = byte.toNat := by
  have low := fits.le_least
  have high := fits.greatest_le
  have upper : value / 64 ^ pending.missing = value / 64 ^ (pending.missing - 1) / 64 := by
    rw [Nat.div_div_eq_div_mul, ← Nat.pow_succ, Nat.succ_eq_add_one,
      Nat.sub_add_cancel fits.missing_pos]
  simp only [Admits, Takes, extended, upper] at takes ⊢
  omega

theorem Fits.trail_eq (value : Nat) :
    trail pending.missing value =
      UInt8.ofNat (value / 64 ^ (pending.missing - 1) % 64 + 0x80) ::
        trail (pending.missing - 1) value := by
  rw [← Nat.sub_add_cancel fits.missing_pos]
  rfl

/-- The codes that go on with a byte are those of the values that are admitted with it next. -/
theorem Fits.isPrefix_append_iff (byte : UInt8) (c : Char) :
    piece ++ [byte] <+: String.utf8EncodeChar c ↔
      pending.Admits c.toNat ∧ c.toNat / 64 ^ (pending.missing - 1) % 64 + 0x80 = byte.toNat := by
  constructor
  · intro begins
    have admitted := fits.admits c ((List.prefix_append piece [byte]).trans begins)
    rw [fits.code c admitted, fits.trail_eq, List.prefix_append_right_inj,
      List.cons_prefix_cons] at begins
    refine ⟨admitted, ?_⟩
    rw [begins.1, UInt8.toNat_ofNat_of_lt' (by simp only [UInt8.size]; omega)]
  · rintro ⟨admitted, isNext⟩
    rw [fits.code c admitted, fits.trail_eq, isNext, UInt8.ofNat_toNat,
      List.prefix_append_right_inj]
    exact List.cons_prefix_cons.mpr ⟨rfl, List.nil_prefix⟩

/-- A value with the bytes so far, one more and nothing else but zeros. -/
theorem Fits.admits_extended {byte : UInt8} (takes : pending.Takes byte) :
    pending.Admits (pending.extended byte * 64 ^ (pending.missing - 1)) ∧
      pending.extended byte * 64 ^ (pending.missing - 1) / 64 ^ (pending.missing - 1) % 64 + 0x80 =
        byte.toNat := by
  rw [← fits.extended_iff takes]
  exact Nat.mul_div_cancel _ (Nat.pow_pos (by decide))

/-- A piece goes on with the bytes that the reader waits for. -/
theorem Fits.begins_append_iff (byte : UInt8) : Begins (piece ++ [byte]) ↔ pending.Takes byte := by
  constructor
  · rintro ⟨c, begins⟩
    rcases (fits.isPrefix_append_iff byte c).mp begins with ⟨⟨-, least, greatest⟩, isNext⟩
    rw [isNext] at least greatest
    exact ⟨least, greatest⟩
  · intro takes
    have admitted := fits.admits_extended takes
    refine ⟨Char.ofNat (pending.extended byte * 64 ^ (pending.missing - 1)), ?_⟩
    rw [fits.isPrefix_append_iff, toNat_ofNat (fits.valid _ admitted.1)]
    exact admitted

theorem Fits.goesOn : ∃ byte, Begins (piece ++ [byte]) := by
  have low := fits.le_least
  have high := fits.greatest_le
  have value : (UInt8.ofNat pending.least).toNat = pending.least :=
    UInt8.toNat_ofNat_of_lt' (by simp only [UInt8.size]; have := fits.least_le_greatest; omega)
  refine ⟨UInt8.ofNat pending.least, (fits.begins_append_iff _).mpr ?_⟩
  rw [Takes, value]
  exact ⟨Nat.le_refl _, fits.least_le_greatest⟩

/-- The last byte completes the code of the extended value. -/
theorem Fits.code_extended {byte : UInt8} (takes : pending.Takes byte)
    (last : pending.missing = 1) :
    String.utf8EncodeChar (Char.ofNat (pending.extended byte)) = piece ++ [byte] := by
  have admitted := fits.admits_extended takes
  simp only [last, Nat.sub_self, Nat.pow_zero, Nat.mul_one, Nat.div_one] at admitted
  have isValid := fits.valid _ admitted.1
  rw [fits.code _ ((toNat_ofNat isValid).symm ▸ admitted.1), last, toNat_ofNat isValid]
  simp [trail, admitted.2]

/-- One more byte that is not the last one. -/
theorem Fits.next {byte : UInt8} (takes : pending.Takes byte) (more : 1 < pending.missing) :
    (pending.next byte).Fits (piece ++ [byte]) := by
  have admits_iff (value : Nat) : (pending.next byte).Admits value ↔
      pending.Admits value ∧ value / 64 ^ (pending.missing - 1) % 64 + 0x80 = byte.toNat := by
    rw [← fits.extended_iff takes]
    simp only [Admits, Pending.next]
    omega
  exact {
    missing_pos := Nat.sub_pos_of_lt more
    le_least := Nat.le_refl 0x80
    least_le_greatest := show 0x80 ≤ 0xBF by decide
    greatest_le := Nat.le_refl 0xBF
    valid := fun value admitted => fits.valid value ((admits_iff value).mp admitted).1
    code := fun c admitted => by
      rcases (admits_iff c.toNat).mp admitted with ⟨before, isNext⟩
      rw [fits.code c before, fits.trail_eq, isNext, UInt8.ofNat_toNat, List.append_assoc]
      rfl
    admits := fun c begins =>
      (admits_iff c.toNat).mpr ((fits.isPrefix_append_iff byte c).mp begins) }

/-! ## One more byte -/

theorem Fits.resume_of_takes {byte : UInt8} (takes : pending.Takes byte) :
    resume pending byte.toNat =
      if pending.missing = 1 then ([Char.ofNat (pending.extended byte)], none)
      else ([], some (pending.next byte)) := by
  have low := fits.le_least
  have high := fits.greatest_le
  have positive := fits.missing_pos
  have value : pending.value * 64 + (byte.toNat - 0x80) = pending.extended byte := by
    unfold extended
    have bounds := takes
    unfold Takes at bounds
    omega
  unfold resume
  simp only [value]
  rw [if_pos (by simpa [Takes] using takes)]
  by_cases last : pending.missing = 1
  · rw [if_pos last, if_pos (by omega)]
  · rw [if_neg last, if_neg (by omega)]
    rfl

omit fits in
/-- A byte that does not fit is read as if nothing came before it. -/
theorem resume_of_not_takes {byte : UInt8} (unfit : ¬ pending.Takes byte) :
    resume pending byte.toNat =
      (replacement :: (start byte.toNat).1, (start byte.toNat).2) := by
  unfold resume
  rw [if_neg (by simpa [Takes] using unfit)]

/-- A code that goes on after the last byte that was read goes on with one that is waited for. -/
theorem Fits.decodeFrom_of_not_takes {rest : List UInt8}
    (stops : ∀ next, rest.head? = some next → ¬ Begins (piece ++ [next])) :
    decodeFrom (some pending) rest = replacement :: decodeFrom none rest := by
  cases rest with
  | nil => rfl
  | cons byte rest =>
      have unfit : ¬ pending.Takes byte := by
        rw [← fits.begins_append_iff]
        exact stops byte rfl
      simp only [decodeFrom, resume_of_not_takes unfit]
      rfl

end Fits

end Pending

theorem start_of_ascii {byte : UInt8} (small : byte.toNat < 0x80) :
    start byte.toNat = ([Char.ofNat byte.toNat], none) := by
  unfold start
  rw [if_pos small]

theorem start_of_announced {byte : Nat} {pending : Pending}
    (announced : Pending.ofLead byte = some pending) : start byte = ([], some pending) := by
  have high : ¬ byte < 0x80 := by
    rcases (Pending.ofLead_eq_some_iff ..).mp announced with h | h | h <;> omega
  unfold start
  rw [if_neg high, announced]

theorem code_of_ascii {byte : UInt8} (small : byte.toNat < 0x80) :
    String.utf8EncodeChar (Char.ofNat byte.toNat) = [byte] := by
  have valid : byte.toNat.isValidChar := by simp only [Nat.isValidChar]; omega
  rw [code_eq, toNat_ofNat valid, lead, further, if_pos (by omega), if_pos (by omega),
    UInt8.ofNat_toNat]
  rfl

theorem begins_of_ofLead {byte : UInt8} {pending : Pending}
    (announced : Pending.ofLead byte.toNat = some pending) : Begins [byte] := by
  rcases (Pending.fits_of_ofLead announced).goesOn with ⟨next, c, begins⟩
  exact ⟨c, (List.prefix_append [byte] [next]).trans begins⟩

/-- A byte that begins a code of several bytes announces something. -/
theorem exists_ofLead {byte : UInt8} (begins : Begins [byte]) (high : 0x80 ≤ byte.toNat) :
    ∃ pending, Pending.ofLead byte.toNat = some pending := by
  rcases (begins_singleton_iff byte).mp begins with ⟨value, valid, isLead⟩
  simp only [Pending.ofLead_eq_some_iff]
  unfold lead at isLead
  have range : (0xC2 ≤ byte.toNat ∧ byte.toNat ≤ 0xDF) ∨ (0xE0 ≤ byte.toNat ∧ byte.toNat ≤ 0xEF) ∨
      (0xF0 ≤ byte.toNat ∧ byte.toNat ≤ 0xF4) := by
    grind
  rcases range with ⟨least, greatest⟩ | ⟨least, greatest⟩ | ⟨least, greatest⟩
  · exact ⟨_, .inl ⟨least, greatest, rfl⟩⟩
  · exact ⟨_, .inr (.inl ⟨least, greatest, rfl⟩)⟩
  · exact ⟨_, .inr (.inr ⟨least, greatest, rfl⟩)⟩

theorem start_of_foreign {byte : UInt8} (foreign : ¬ Begins [byte]) :
    start byte.toNat = ([replacement], none) := by
  have high : ¬ byte.toNat < 0x80 := by
    intro small
    exact foreign ⟨Char.ofNat byte.toNat, code_of_ascii small ▸ List.prefix_rfl⟩
  unfold start
  rw [if_neg high]
  cases announced : Pending.ofLead byte.toNat with
  | none => rfl
  | some pending => exact (foreign (begins_of_ofLead announced)).elim

/-! ## What the reader finds -/

/-- What is read of bytes, from the start or after a piece of a code. -/
theorem readsAs_decodeFrom (bytes : List UInt8) :
    ReadsAs bytes (decodeFrom none bytes) ∧
      ∀ pending piece, pending.Fits piece → piece ≠ [] →
        ReadsAs (piece ++ bytes) (decodeFrom (some pending) bytes) := by
  induction bytes with
  | nil =>
      refine ⟨.nil, fun pending piece fits filled => ?_⟩
      exact .piece filled fits.goesOn (fun next isNext => by cases isNext) .nil
  | cons byte rest ih =>
      have afresh : ReadsAs (byte :: rest) (decodeFrom none (byte :: rest)) := by
        by_cases begins : Begins [byte]
        · by_cases small : byte.toNat < 0x80
          · have read := ReadsAs.char (Char.ofNat byte.toNat) ih.1
            rw [code_of_ascii small] at read
            simpa [decodeFrom, start_of_ascii small] using read
          · rcases exists_ofLead begins (Nat.le_of_not_lt small) with ⟨pending, announced⟩
            have read := ih.2 pending [byte] (Pending.fits_of_ofLead announced) (by simp)
            simpa [decodeFrom, start_of_announced announced] using read
        · have read := ReadsAs.stray begins ih.1
          simpa [decodeFrom, start_of_foreign begins] using read
      refine ⟨afresh, fun pending piece fits filled => ?_⟩
      by_cases takes : pending.Takes byte
      · have resumed := fits.resume_of_takes takes
        split at resumed
        · next last =>
            have read := ReadsAs.char (Char.ofNat (pending.extended byte)) ih.1
            rw [fits.code_extended takes last, List.append_assoc] at read
            simpa [decodeFrom, resumed] using read
        · next last =>
            have more : 1 < pending.missing :=
              Nat.lt_of_le_of_ne fits.missing_pos (Ne.symm last)
            have read := ih.2 _ _ (fits.next takes more) (by simp)
            rw [List.append_assoc] at read
            simpa [decodeFrom, resumed] using read
      · have stops : ∀ next, (byte :: rest).head? = some next → ¬ Begins (piece ++ [next]) := by
          intro next isNext
          obtain rfl : byte = next := Option.some.inj isNext
          rwa [fits.begins_append_iff]
        rw [fits.decodeFrom_of_not_takes stops]
        exact .piece filled fits.goesOn stops afresh

/-- What is missing of a code is known after its first byte. -/
theorem Pending.Fits.missing_eq {pending : Pending} {piece after : List UInt8}
    (fits : pending.Fits piece) {c : Char} (code : String.utf8EncodeChar c = piece ++ after) :
    pending.missing = after.length := by
  have admitted := fits.admits c (code ▸ List.prefix_append piece after)
  rw [fits.code c admitted, List.append_cancel_left_eq] at code
  rw [← code, length_trail]

/-- After more of a code the reader waits for the rest of it. -/
theorem Pending.Fits.exists_after {pending : Pending} {first more after : List UInt8}
    (fits : pending.Fits first) {c : Char}
    (code : String.utf8EncodeChar c = first ++ (more ++ after)) (unfinished : after ≠ []) :
    ∃ last : Pending, last.Fits (first ++ more) ∧
      ∀ rest, decodeFrom (some pending) (more ++ rest) = decodeFrom (some last) rest := by
  induction more generalizing pending first with
  | nil =>
      rw [List.append_nil]
      exact ⟨pending, fits, fun rest => rfl⟩
  | cons byte more ih =>
      have split : String.utf8EncodeChar c = first ++ [byte] ++ (more ++ after) := by
        rw [code, List.append_assoc]
        rfl
      have takes : pending.Takes byte := by
        rw [← fits.begins_append_iff]
        exact ⟨c, split ▸ List.prefix_append _ _⟩
      have notLast : pending.missing ≠ 1 := by
        have positive := List.length_pos_iff.mpr unfinished
        rw [fits.missing_eq code]
        simp only [List.cons_append, List.length_cons, List.length_append]
        omega
      have resumed := fits.resume_of_takes takes
      rw [if_neg notLast] at resumed
      have more' : 1 < pending.missing := Nat.lt_of_le_of_ne fits.missing_pos notLast.symm
      rcases ih (fits.next takes more') split with ⟨last, fitsLast, read⟩
      refine ⟨last, by simpa using fitsLast, fun rest => ?_⟩
      simpa [decodeFrom, resumed] using read rest

/-- After a piece of a code, but not all of it, the reader waits for the rest. -/
theorem exists_pending {c : Char} {piece after : List UInt8}
    (code : String.utf8EncodeChar c = piece ++ after) (filled : piece ≠ [])
    (unfinished : after ≠ []) :
    ∃ pending : Pending, pending.Fits piece ∧
      ∀ rest, decodeFrom none (piece ++ rest) = decodeFrom (some pending) rest := by
  cases piece with
  | nil => exact (filled rfl).elim
  | cons byte more =>
      have begins : Begins [byte] := ⟨c, code ▸ List.prefix_append [byte] (more ++ after)⟩
      have high : 0x80 ≤ byte.toNat := by
        rw [code_eq, List.cons_append, List.cons_eq_cons] at code
        rw [← code.1, UInt8.toNat_ofNat_of_lt' (lead_lt c)]
        refine Nat.le_of_not_lt fun small => unfinished ?_
        rw [further_eq_zero small] at code
        exact (List.append_eq_nil_iff.mp code.2.symm).2
      rcases exists_ofLead begins high with ⟨pending, announced⟩
      rcases (Pending.fits_of_ofLead announced).exists_after code unfinished with
        ⟨last, fits, read⟩
      refine ⟨last, fits, fun rest => ?_⟩
      simpa [decodeFrom, start_of_announced announced] using read rest

theorem toNat_of_code_eq_singleton {c : Char} {byte : UInt8}
    (code : String.utf8EncodeChar c = [byte]) : byte.toNat = c.toNat ∧ c.toNat < 0x80 := by
  rw [code_eq, List.cons_eq_cons] at code
  have none : further c.toNat = 0 := by rw [← length_trail (further c.toNat), code.2]; rfl
  have small : c.toNat ≤ 0x7F := by
    unfold further at none
    grind
  rw [← code.1, UInt8.toNat_ofNat_of_lt' (lead_lt c), lead, if_pos small]
  exact ⟨rfl, Nat.lt_succ_of_le small⟩

/-- The code of a character is read as that character, whatever follows it. -/
theorem decodeFrom_code_append (c : Char) (rest : List UInt8) :
    decodeFrom none (String.utf8EncodeChar c ++ rest) = c :: decodeFrom none rest := by
  have filled : String.utf8EncodeChar c ≠ [] := by simp [code_eq]
  obtain ⟨piece, byte, code⟩ : ∃ piece byte, String.utf8EncodeChar c = piece ++ [byte] :=
    ⟨_, _, (List.dropLast_concat_getLast filled).symm⟩
  cases piece with
  | nil =>
      rcases toNat_of_code_eq_singleton code with ⟨value, small⟩
      have started := start_of_ascii (value.symm ▸ small)
      rw [value, Char.ofNat_toNat] at started
      rw [code]
      simp [decodeFrom, value, started]
  | cons first more =>
      rcases exists_pending code (by simp) (by simp) with ⟨pending, fits, read⟩
      have isNext := (fits.isPrefix_append_iff byte c).mp (code ▸ List.prefix_rfl)
      have takes : pending.Takes byte :=
        (fits.begins_append_iff byte).mp ⟨c, code ▸ List.prefix_rfl⟩
      have last : pending.missing = 1 := fits.missing_eq code
      have value := (fits.extended_iff takes c.toNat).mpr isNext
      have resumed := fits.resume_of_takes takes
      rw [last, Nat.sub_self, Nat.pow_zero, Nat.div_one] at value
      rw [if_pos last, ← value, Char.ofNat_toNat] at resumed
      rw [code, List.append_assoc, read]
      simp [decodeFrom, resumed]

/-- The reader finds the one text that bytes are read as. -/
theorem readsAs_iff {bytes : List UInt8} {text : List Char} :
    ReadsAs bytes text ↔ decodeLossy bytes = text := by
  constructor
  · intro reads
    rw [decodeLossy]
    induction reads with
    | nil => rfl
    | char c others ih => rw [decodeFrom_code_append, ih]
    | @piece piece rest text filled goesOn stops others ih =>
        rcases goesOn with ⟨next, c, after, code⟩
        rw [List.append_assoc] at code
        rcases exists_pending code.symm filled (by simp) with ⟨pending, fits, read⟩
        rw [read, fits.decodeFrom_of_not_takes stops, ih]
    | @stray byte rest text foreign others ih =>
        simp [decodeFrom, start_of_foreign foreign, ih]
  · rintro rfl
    exact (readsAs_decodeFrom bytes).1

/-- What is encoded is read back. -/
theorem decodeLossy_encode (text : List Char) : decodeLossy (encode text) = text := by
  rw [← readsAs_iff]
  induction text with
  | nil => exact .nil
  | cons c rest ih => exact .char c ih

end Whittle.Text.Utf8
