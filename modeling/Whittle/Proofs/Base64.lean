import Whittle.Text.Base64

/-!
# Base64 is canonical

The standard asks for groups of four digits, of which the last may be padded,
and for zeros where the padding leaves bits over.  Reading takes these texts and
no others, and each of them is what its bytes are written as.
-/

namespace Whittle.Text.Base64

/-! ## Digits -/

/-- The standard alphabet. -/
theorem map_digitChar_range : (List.range 64).map digitChar =
    "ABCDEFGHIJKLMNOPQRSTUVWXYZabcdefghijklmnopqrstuvwxyz0123456789+/".toList := by
  decide

theorem digitValue?_digitChar : ∀ {value : Nat}, value < 64 →
    digitValue? (digitChar value) = some value := by
  decide

theorem digitChar_ne_padding {value : Nat} (isDigit : value < 64) : digitChar value ≠ '=' := by
  intro padding
  have read := digitValue?_digitChar isDigit
  rw [padding] at read
  cases read

/-- A character has a value only if it is the digit of that value. -/
theorem digit_of_digitValue? {c : Char} {value : Nat} (read : digitValue? c = some value) :
    value < 64 ∧ digitChar value = c := by
  have own : Char.ofNat c.toNat = c := Char.ofNat_toNat c
  simp only [digitValue?] at read
  split at read
  · next upper =>
      obtain rfl := Option.some.inj read
      refine ⟨by omega, ?_⟩
      rw [digitChar, if_pos (by omega), show 65 + (c.toNat - 65) = c.toNat by omega, own]
  split at read
  · next lower =>
      obtain rfl := Option.some.inj read
      refine ⟨by omega, ?_⟩
      rw [digitChar, if_neg (by omega), if_pos (by omega),
        show 97 + (c.toNat - 97 + 26 - 26) = c.toNat by omega, own]
  split at read
  · next decimal =>
      obtain rfl := Option.some.inj read
      refine ⟨by omega, ?_⟩
      rw [digitChar, if_neg (by omega), if_neg (by omega), if_pos (by omega),
        show 48 + (c.toNat - 48 + 52 - 52) = c.toNat by omega, own]
  split at read
  · next plus =>
      obtain rfl := Option.some.inj read
      exact ⟨by omega, plus ▸ rfl⟩
  split at read
  · next slash =>
      obtain rfl := Option.some.inj read
      exact ⟨by omega, slash ▸ rfl⟩
  · cases read

/-! ## Groups -/

section Groups

variable {first second third fourth : Nat}

/-- Two digits and two of padding are one byte. -/
theorem decode?_two (ofFirst : first < 64) (ofSecond : second < 64) :
    decode? [digitChar first, digitChar second, '=', '='] =
      if (first * 64 + second) % 16 = 0 then
        some [UInt8.ofNat ((first * 64 + second) / 16)]
      else none := by
  simp [decode?, digitValue?_digitChar, ofFirst, ofSecond]

/-- Three digits and one of padding are two bytes. -/
theorem decode?_three (ofFirst : first < 64) (ofSecond : second < 64) (ofThird : third < 64) :
    decode? [digitChar first, digitChar second, digitChar third, '='] =
      if ((first * 64 + second) * 64 + third) % 4 = 0 then
        some [UInt8.ofNat (((first * 64 + second) * 64 + third) / 1024),
          UInt8.ofNat (((first * 64 + second) * 64 + third) / 4)]
      else none := by
  simp [decode?, digitValue?_digitChar, digitChar_ne_padding, ofFirst, ofSecond, ofThird]

/-- Four digits are three bytes. -/
theorem decode?_four (ofFirst : first < 64) (ofSecond : second < 64) (ofThird : third < 64)
    (ofFourth : fourth < 64) (rest : List Char) :
    decode? (digitChar first :: digitChar second :: digitChar third :: digitChar fourth :: rest) =
      (decode? rest).map fun bytes =>
        UInt8.ofNat ((((first * 64 + second) * 64 + third) * 64 + fourth) / 65536) ::
          UInt8.ofNat ((((first * 64 + second) * 64 + third) * 64 + fourth) / 256) ::
            UInt8.ofNat (((first * 64 + second) * 64 + third) * 64 + fourth) :: bytes := by
  rw [decode?]
  · rw [digitValue?_digitChar ofFirst, digitValue?_digitChar ofSecond,
      digitValue?_digitChar ofThird, digitValue?_digitChar ofFourth]
    cases decode? rest <;> rfl
  · rintro - padding
    exact absurd padding (digitChar_ne_padding ofFourth)
  · exact fun padding => absurd padding (digitChar_ne_padding ofFourth)

end Groups

/-- A byte is known by its value. -/
theorem ofNat_eq_byte {n : Nat} {byte : UInt8} (same : n % 256 = byte.toNat) :
    UInt8.ofNat n = byte := by
  rw [← UInt8.toNat_inj, UInt8.toNat_ofNat']
  exact same

/-- The bytes of a text are read back. -/
theorem decode?_encode (bytes : List UInt8) : decode? (encode bytes) = some bytes := by
  fun_induction encode bytes with
  | case1 => rfl
  | case2 a group =>
      have ofA := a.toNat_lt
      have whole : group / 64 * 64 + group % 64 = a.toNat * 16 := by omega
      have first : UInt8.ofNat (a.toNat * 16 / 16) = a := ofNat_eq_byte (by omega)
      rw [decode?_two (by omega) (by omega), whole, if_pos (by omega), first]
  | case3 a b group =>
      have ofA := a.toNat_lt
      have ofB := b.toNat_lt
      have whole : (group / 4096 * 64 + group / 64 % 64) * 64 + group % 64 =
          (a.toNat * 256 + b.toNat) * 4 := by omega
      have first : UInt8.ofNat ((a.toNat * 256 + b.toNat) * 4 / 1024) = a :=
        ofNat_eq_byte (by omega)
      have second : UInt8.ofNat ((a.toNat * 256 + b.toNat) * 4 / 4) = b :=
        ofNat_eq_byte (by omega)
      rw [decode?_three (by omega) (by omega) (by omega), whole, if_pos (by omega), first, second]
  | case4 a b c rest group ih =>
      have ofA := a.toNat_lt
      have ofB := b.toNat_lt
      have ofC := c.toNat_lt
      have whole : ((group / 262144 * 64 + group / 4096 % 64) * 64 + group / 64 % 64) * 64 +
          group % 64 = (a.toNat * 256 + b.toNat) * 256 + c.toNat := by omega
      have first : UInt8.ofNat (((a.toNat * 256 + b.toNat) * 256 + c.toNat) / 65536) = a :=
        ofNat_eq_byte (by omega)
      have second : UInt8.ofNat (((a.toNat * 256 + b.toNat) * 256 + c.toNat) / 256) = b :=
        ofNat_eq_byte (by omega)
      have third : UInt8.ofNat ((a.toNat * 256 + b.toNat) * 256 + c.toNat) = c :=
        ofNat_eq_byte (by omega)
      rw [decode?_four (by omega) (by omega) (by omega) (by omega), whole, ih, first, second, third]
      rfl

/-! ## The canonical spelling -/

/--
The texts that the standard asks for: groups of four digits, of which the last
may be padded, with zeros for the bits that padding leaves over.
-/
inductive Canonical : List Char → Prop where
  | nil : Canonical []
  /-- The second digit has four bits to spare. -/
  | one {first second : Nat} (ofFirst : first < 64) (ofSecond : second < 64)
      (zeros : second % 16 = 0) :
      Canonical [digitChar first, digitChar second, '=', '=']
  /-- The third digit has two bits to spare. -/
  | two {first second third : Nat} (ofFirst : first < 64) (ofSecond : second < 64)
      (ofThird : third < 64) (zeros : third % 4 = 0) :
      Canonical [digitChar first, digitChar second, digitChar third, '=']
  | group {first second third fourth : Nat} (ofFirst : first < 64) (ofSecond : second < 64)
      (ofThird : third < 64) (ofFourth : fourth < 64) {rest : List Char} (later : Canonical rest) :
      Canonical (digitChar first :: digitChar second :: digitChar third :: digitChar fourth :: rest)

theorem canonical_of_decode? {text : List Char} {bytes : List UInt8}
    (read : decode? text = some bytes) : Canonical text := by
  fun_induction decode? text generalizing bytes with
  | case1 => exact .nil
  | case2 a b =>
      simp only [Option.bind_eq_bind, Option.bind_eq_some_iff] at read
      rcases read with ⟨first, ofA, second, ofB, read⟩
      rcases digit_of_digitValue? ofA with ⟨ofFirst, rfl⟩
      rcases digit_of_digitValue? ofB with ⟨ofSecond, rfl⟩
      split at read
      · exact .one ofFirst ofSecond (by omega)
      · cases read
  | case3 a b c =>
      simp only [Option.bind_eq_bind, Option.bind_eq_some_iff] at read
      rcases read with ⟨first, ofA, second, ofB, third, ofC, read⟩
      rcases digit_of_digitValue? ofA with ⟨ofFirst, rfl⟩
      rcases digit_of_digitValue? ofB with ⟨ofSecond, rfl⟩
      rcases digit_of_digitValue? ofC with ⟨ofThird, rfl⟩
      split at read
      · exact .two ofFirst ofSecond ofThird (by omega)
      · cases read
  | case4 a b c d rest _ _ ih =>
      simp only [Option.bind_eq_bind, Option.bind_eq_some_iff] at read
      rcases read with ⟨first, ofA, second, ofB, third, ofC, fourth, ofD, later, ofRest, -⟩
      rcases digit_of_digitValue? ofA with ⟨ofFirst, rfl⟩
      rcases digit_of_digitValue? ofB with ⟨ofSecond, rfl⟩
      rcases digit_of_digitValue? ofC with ⟨ofThird, rfl⟩
      rcases digit_of_digitValue? ofD with ⟨ofFourth, rfl⟩
      exact .group ofFirst ofSecond ofThird ofFourth (ih ofRest)
  | case5 => cases read

theorem exists_encode_of_canonical {text : List Char} (canonical : Canonical text) :
    ∃ bytes, encode bytes = text := by
  induction canonical with
  | nil => exact ⟨[], rfl⟩
  | @one first second ofFirst ofSecond zeros =>
      let a := UInt8.ofNat ((first * 64 + second) / 16)
      have ofA : a.toNat * 16 = first * 64 + second := by
        have value : a.toNat = (first * 64 + second) / 16 % 256 := UInt8.toNat_ofNat'
        omega
      refine ⟨[a], ?_⟩
      have high : (first * 64 + second) / 64 = first := by omega
      have low : (first * 64 + second) % 64 = second := by omega
      simp only [encode, ofA, high, low]
  | @two first second third ofFirst ofSecond ofThird zeros =>
      let group := (first * 64 + second) * 64 + third
      let a := UInt8.ofNat (group / 1024)
      let b := UInt8.ofNat (group / 4)
      have whole : (a.toNat * 256 + b.toNat) * 4 = group := by
        have ofA : a.toNat = group / 1024 % 256 := UInt8.toNat_ofNat'
        have ofB : b.toNat = group / 4 % 256 := UInt8.toNat_ofNat'
        omega
      refine ⟨[a, b], ?_⟩
      have high : group / 4096 = first := by omega
      have middle : group / 64 % 64 = second := by omega
      have low : group % 64 = third := by omega
      simp only [encode, whole, high, middle, low]
  | @group first second third fourth ofFirst ofSecond ofThird ofFourth rest later ih =>
      rcases ih with ⟨bytes, rfl⟩
      let group := ((first * 64 + second) * 64 + third) * 64 + fourth
      let a := UInt8.ofNat (group / 65536)
      let b := UInt8.ofNat (group / 256)
      let c := UInt8.ofNat group
      have whole : (a.toNat * 256 + b.toNat) * 256 + c.toNat = group := by
        have ofA : a.toNat = group / 65536 % 256 := UInt8.toNat_ofNat'
        have ofB : b.toNat = group / 256 % 256 := UInt8.toNat_ofNat'
        have ofC : c.toNat = group % 256 := UInt8.toNat_ofNat'
        omega
      refine ⟨a :: b :: c :: bytes, ?_⟩
      have ofFirst : group / 262144 = first := by omega
      have ofSecond : group / 4096 % 64 = second := by omega
      have ofThird : group / 64 % 64 = third := by omega
      have ofFourth : group % 64 = fourth := by omega
      simp only [encode, whole, ofFirst, ofSecond, ofThird, ofFourth]

/-- Some bytes are read from the canonical texts, and from no others. -/
theorem isSome_decode?_iff (text : List Char) : (decode? text).isSome ↔ Canonical text := by
  constructor
  · intro read
    rcases Option.isSome_iff_exists.mp read with ⟨bytes, read⟩
    exact canonical_of_decode? read
  · intro canonical
    rcases exists_encode_of_canonical canonical with ⟨bytes, rfl⟩
    simp [decode?_encode]

/-- A text is read as the bytes that are written like it. -/
theorem decode?_eq_some_iff (text : List Char) (bytes : List UInt8) :
    decode? text = some bytes ↔ encode bytes = text := by
  constructor
  · intro read
    rcases exists_encode_of_canonical (canonical_of_decode? read) with ⟨written, rfl⟩
    rw [decode?_encode] at read
    rw [Option.some.inj read]
  · rintro rfl
    exact decode?_encode bytes

end Whittle.Text.Base64
