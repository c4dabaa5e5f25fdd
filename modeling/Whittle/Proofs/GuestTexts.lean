import Mathlib.Algebra.Group.Int.Defs
import Whittle.Guest.Run
import Whittle.Proofs.Utf8

/-!
# Texts of guests

A guest names a text by an address and a length, which are words of 32 bits
without a sign.  The host takes them as integers with a sign, so a text beyond
the first two gigabytes of a memory is refused as if its address were below
zero.  All other texts are read wherever they lie in the memory
(`raise_carries_text`).

The host adds the two in words of its own.  `textInWords?` is that computation,
with an end for it where a sum is no word; no such end is ever met.
-/

namespace Whittle.Guest

open Text.Utf8 (ReadsAs)

/-! ## Bytes of a memory -/

namespace Memory

variable (memory : Memory)

/-- The bytes from an address on. -/
def bytesAt (address count : Nat) : List UInt8 :=
  (List.range count).map fun i => memory.byteAt (address + i)

/-- The bytes between two addresses, if these are in order and not outside. -/
def between? (start stop : Nat) : Option (List UInt8) :=
  if start ≤ stop ∧ stop ≤ memory.size then some (memory.bytesAt start (stop - start)) else none

theorem between?_add (start count : Nat) :
    memory.between? start (start + count) = memory.read? start count := by
  simp [between?, read?, bytesAt]

theorem read?_of_le {address count : Nat} (inside : address + count ≤ memory.size) :
    memory.read? address count = some (memory.bytesAt address count) :=
  if_pos inside

end Memory

/-! ## Words of the host -/

section Words

variable {bits : Nat}

/-- An integer as a word of the host, if it is one. -/
def word? (bits : Nat) (value : Int32) : Option (BitVec bits) :=
  if 0 ≤ value.toInt ∧ value.toInt.toNat < 2 ^ bits then some (BitVec.ofNat bits value.toInt.toNat)
  else none

/-- The sum of two words, if it is one. -/
def wordSum? (first second : BitVec bits) : Option (BitVec bits) :=
  if first.uaddOverflow second then none else some (first + second)

/-- How the host reads a text, if no sum is too great for its words. -/
def textInWords? (bits : Nat) (exported : Option Memory) (address length : Int32) :
    Option (Except Cause String) :=
  match exported with
  | none => some (.error (.error noMemoryMessage))
  | some memory =>
      match word? bits address, word? bits length with
      | some start, some count => do
          let stop ← wordSum? start count
          match memory.between? start.toNat stop.toNat with
          | none => return .error (.error (outsideMessage start.toNat stop.toNat))
          | some bytes => return .ok (String.ofList (Text.Utf8.decodeLossy bytes))
      | _, _ => some (.error (.error negativeMessage))

theorem word?_of_negative {value : Int32} (negative : value.toInt < 0) :
    word? bits value = none :=
  if_neg fun both => absurd negative (Int.not_lt.mpr both.1)

/-- An integer that is not below zero is a word of at least 32 bits. -/
theorem exists_word (wide : 32 ≤ bits) {value : Int32} (natural : 0 ≤ value.toInt) :
    ∃ word, word? bits value = some word ∧ word.toNat = value.toInt.toNat := by
  have below := value.toInt_lt
  have power : 2 ^ 32 ≤ 2 ^ bits := Nat.pow_le_pow_right (by decide) wide
  have small : value.toInt.toNat < 2 ^ bits := by omega
  refine ⟨BitVec.ofNat bits value.toInt.toNat, if_pos ⟨natural, small⟩, ?_⟩
  rw [BitVec.toNat_ofNat, Nat.mod_eq_of_lt small]

theorem exists_wordSum {first second : BitVec bits}
    (small : first.toNat + second.toNat < 2 ^ bits) :
    ∃ sum, wordSum? first second = some sum ∧ sum.toNat = first.toNat + second.toNat := by
  refine ⟨first + second, if_neg ?_, ?_⟩
  · simpa [BitVec.uaddOverflow] using small
  · rw [BitVec.toNat_add, Nat.mod_eq_of_lt small]

/-- No sum is too great for words of at least 32 bits. -/
theorem textInWords?_eq (wide : 32 ≤ bits) (exported : Option Memory) (address length : Int32) :
    textInWords? bits exported address length = some (guestText exported address length) := by
  cases exported with
  | none => rfl
  | some memory =>
      by_cases negative : address.toInt < 0 ∨ length.toInt < 0
      · have refused : guestText (some memory) address length =
            .error (.error negativeMessage) := by
          rw [guestText, if_pos negative]
        rw [refused, textInWords?]
        rcases negative with negative | negative
        · rw [word?_of_negative negative]
        · rw [word?_of_negative negative]
          cases word? bits address <;> rfl
      · have natural := not_or.mp negative
        rcases exists_word wide (Int.not_lt.mp natural.1) with ⟨start, isStart, startValue⟩
        rcases exists_word wide (Int.not_lt.mp natural.2) with ⟨count, isCount, countValue⟩
        have small : start.toNat + count.toNat < 2 ^ bits := by
          have power : 2 ^ 32 ≤ 2 ^ bits := Nat.pow_le_pow_right (by decide) wide
          have below := address.toInt_lt
          have below' := length.toInt_lt
          omega
        rcases exists_wordSum small with ⟨stop, isStop, stopValue⟩
        simp only [textInWords?, isStart, isCount, isStop, Option.bind_eq_bind, Option.bind_some,
          stopValue, memory.between?_add, startValue, countValue, guestText, if_neg negative]
        cases memory.read? address.toInt.toNat length.toInt.toNat <;> rfl

end Words

/-! ## Raised texts -/

theorem toInt_toInt32 (word : UInt32) :
    word.toInt32.toInt =
      if word.toNat < 2 ^ 31 then (word.toNat : Int) else (word.toNat : Int) - 2 ^ 32 := by
  have asBits : word.toInt32.toInt = word.toBitVec.toInt := rfl
  have value : word.toBitVec.toNat = word.toNat := rfl
  rw [asBits, BitVec.toInt_eq_toNat_cond, value]
  split <;> split <;> omega

/-- An integer is below zero if it stands for a word of the upper half. -/
theorem toInt32_neg_iff (word : UInt32) : word.toInt32.toInt < 0 ↔ 2 ^ 31 ≤ word.toNat := by
  have below := word.toNat_lt
  rw [toInt_toInt32]
  split <;> omega

theorem toNat_toInt32 {word : UInt32} (low : word.toNat < 2 ^ 31) :
    word.toInt32.toInt.toNat = word.toNat := by
  rw [toInt_toInt32, if_pos low, Int.toNat_natCast]

section Raise

variable (inst : Instance) (address length : UInt32) (stack globals : List Value)

/-- A call of the function that raises exceptions, with an address and a length on the stack. -/
def raised : Except Cause State :=
  callHost inst .raise ⟨.i32 length.toInt32 :: .i32 address.toInt32 :: stack, globals⟩

/-- The call raises what reading the text gives, with a text as an exception. -/
theorem raised_eq :
    raised inst address length stack globals =
      match guestText inst.exportedMemory address.toInt32 length.toInt32 with
      | .ok text => .error (.exception text)
      | .error cause => .error cause := by
  unfold raised callHost HostFunc.call
  dsimp only
  cases guestText inst.exportedMemory address.toInt32 length.toInt32 <;> rfl

variable {address length}

theorem guestText_of_le {memory : Memory} (inside : address.toNat + length.toNat ≤ memory.size)
    (lowAddress : address.toNat < 2 ^ 31) (lowLength : length.toNat < 2 ^ 31) :
    guestText (some memory) address.toInt32 length.toInt32 =
      .ok (String.ofList
        (Text.Utf8.decodeLossy (memory.bytesAt address.toNat length.toNat))) := by
  have natural : ¬ (address.toInt32.toInt < 0 ∨ length.toInt32.toInt < 0) := by
    rw [toInt32_neg_iff, toInt32_neg_iff]
    omega
  rw [guestText, if_neg natural, toNat_toInt32 lowAddress, toNat_toInt32 lowLength]
  simp only [memory.read?_of_le inside]

/-- A text that is not inside the memory, or too far in it, is not read. -/
theorem exists_message_of_far {memory : Memory}
    (far : memory.size < address.toNat + length.toNat ∨ 2 ^ 31 ≤ address.toNat ∨
      2 ^ 31 ≤ length.toNat) :
    ∃ message, guestText (some memory) address.toInt32 length.toInt32 =
      .error (.error message) := by
  by_cases negative : address.toInt32.toInt < 0 ∨ length.toInt32.toInt < 0
  · exact ⟨negativeMessage, by rw [guestText, if_pos negative]⟩
  · have low := not_or.mp negative
    rw [toInt32_neg_iff, toInt32_neg_iff, Nat.not_le, Nat.not_le] at low
    have outside : memory.read? address.toNat length.toNat = none := by
      rw [Memory.read?_eq_none_iff]
      omega
    refine ⟨outsideMessage address.toNat (address.toNat + length.toNat), ?_⟩
    rw [guestText, if_neg negative, toNat_toInt32 low.1, toNat_toInt32 low.2]
    simp only [outside]

variable (address length)

/--
An exception of a guest carries what the bytes of its text are read as, for all texts
inside the memory whose address and length are below 2 GiB, which are all texts of a
memory that is smaller than that.  Every other call is an error that is no exception.
The host gets to an end in words of any width from 32 bits on.
-/
theorem raise_carries_text :
    (∀ memory, inst.exportedMemory = some memory →
      address.toNat + length.toNat ≤ memory.size →
      address.toNat < 2 ^ 31 → length.toNat < 2 ^ 31 →
      ∃ text, ReadsAs (memory.bytesAt address.toNat length.toNat) text ∧
        raised inst address length stack globals = .error (.exception (String.ofList text))) ∧
    ((∀ memory, inst.exportedMemory = some memory →
      memory.size < address.toNat + length.toNat ∨ 2 ^ 31 ≤ address.toNat ∨
        2 ^ 31 ≤ length.toNat) →
      ∃ message, raised inst address length stack globals = .error (.error message)) ∧
    ∀ bits, 32 ≤ bits →
      textInWords? bits inst.exportedMemory address.toInt32 length.toInt32 =
        some (guestText inst.exportedMemory address.toInt32 length.toInt32) := by
  refine ⟨?inside, ?outside, fun bits wide => textInWords?_eq wide _ _ _⟩
  case inside =>
    intro memory shown inside lowAddress lowLength
    refine ⟨_, Text.Utf8.readsAs_iff.mpr rfl, ?_⟩
    rw [raised_eq, shown, guestText_of_le inside lowAddress lowLength]
  case outside =>
    intro far
    rw [raised_eq]
    cases shown : inst.exportedMemory with
    | none => exact ⟨noMemoryMessage, rfl⟩
    | some memory =>
        rcases exists_message_of_far (far memory shown) with ⟨message, unread⟩
        exact ⟨message, by rw [unread]⟩

end Raise

/-- The text that the guests below raise. -/
def failedText : List UInt8 :=
  Text.Utf8.encode "assertion failed".toList

theorem readsAs_failedText_iff {text : List Char} :
    ReadsAs failedText text ↔ text = "assertion failed".toList := by
  rw [Text.Utf8.readsAs_iff, failedText, Text.Utf8.decodeLossy_encode, eq_comm]

/-- A page that ends with the text. -/
def fullPage : Memory :=
  ⟨pageSize, [(65520, failedText)]⟩

/-- An instance that shows a memory and imports the function that raises exceptions. -/
def showing (memory : Memory) : Instance where
  guest := { Module.empty with exports := [⟨memoryExport, .memory, 0⟩] }
  hosts := [.raise]
  memories := [memory]

/-- A text may take the last bytes of the memory. -/
theorem raise_carries_text_last :
    raised (showing fullPage) 65520 16 [] [] = .error (.exception "assertion failed") := by
  rcases (raise_carries_text (showing fullPage) 65520 16 [] []).1 fullPage rfl
    (by decide) (by decide) (by decide) with ⟨text, read, raises⟩
  have stored : fullPage.bytesAt (65520 : UInt32).toNat (16 : UInt32).toNat = failedText := by
    decide
  rw [stored, readsAs_failedText_iff] at read
  rw [raises, read, String.ofList_toList]

/-- A guest that raises a text at 2 GiB, in a memory that is one page longer. -/
def farGuest : Module :=
  { Module.empty with
    types := [HostFunc.type, entryType]
    imports := [⟨HostFunc.space, HostFunc.raise.name, .func 0⟩]
    funcs := [1]
    memories := [⟨32769, none⟩]
    exports := [⟨"main", .func, 1⟩, ⟨memoryExport, .memory, 0⟩]
    code := [⟨[], [.i32Const (-2147483648), .i32Const 16, .call 0, .i32Const 0]⟩]
    segments := [⟨0, [.i32Const (-2147483648)], failedText⟩] }

/-- The memory of `farGuest`. -/
def farMemory : Memory :=
  ⟨32769 * pageSize, [(2 ^ 31, failedText)]⟩

/-- `farGuest` brought up. -/
def farInstance : Instance :=
  ⟨farGuest, [.raise], [farMemory]⟩

/-- The text of `farGuest` lies inside its memory, and no exception carries it. -/
theorem raise_loses_far_text :
    farGuest.instantiate .host = .ok (farInstance, []) ∧
      farInstance.exportedMemory = some farMemory ∧
      farMemory.size ≤ 2 ^ 32 ∧
      (2147483648 : UInt32).toNat + (16 : UInt32).toNat ≤ farMemory.size ∧
      ReadsAs (farMemory.bytesAt (2147483648 : UInt32).toNat (16 : UInt32).toNat)
        "assertion failed".toList ∧
      raised farInstance 2147483648 16 [] [] = .error (.error negativeMessage) ∧
      farGuest.func? "main" entryType = .ok 1 ∧
      farInstance.callEntry [] 1 = .error (.error negativeMessage) := by
  refine ⟨rfl, rfl, by decide, by decide, ?_, rfl, rfl, rfl⟩
  have stored : farMemory.bytesAt (2147483648 : UInt32).toNat (16 : UInt32).toNat =
      failedText := by decide
  rw [stored, readsAs_failedText_iff]

end Whittle.Guest
