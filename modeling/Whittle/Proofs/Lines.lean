import Whittle.Proofs.Numerals
import Whittle.Worker.Serve

/-!
# Lines

A stream of bytes is cut after each of its line feeds.  `IsCut` says what the
cut is without saying how to find it: every piece ends at its only line feed,
and only the last one may lack it.  Reading finds this cut, and there is no
other one.

A text goes through such a stream as one line if it has no line break.  JSON
text never has one, whatever strings it carries: a string escapes it, and
everything else is made of digits, signs and words.  Its bytes then have no
line feed either, because in UTF-8 no byte of a longer sequence is below 128.
-/

namespace Whittle

/-! ## Cutting -/

/-- The pieces of some bytes, each with the line feed that ends it. -/
inductive IsCut : List UInt8 → List (List UInt8) → Prop
  | done : IsCut [] []
  | last {tail : List UInt8} (unbroken : lineFeed ∉ tail) (nonempty : tail ≠ []) :
      IsCut tail [tail]
  | line {text rest : List UInt8} {pieces : List (List UInt8)}
      (unbroken : lineFeed ∉ text) (later : IsCut rest pieces) :
      IsCut (text ++ lineFeed :: rest) ((text ++ [lineFeed]) :: pieces)

/-- Pieces with a byte before them that ends none: it joins the first one. -/
def joinFirst (byte : UInt8) : List (List UInt8) → List (List UInt8)
  | [] => [[byte]]
  | piece :: pieces => (byte :: piece) :: pieces

namespace Inflow

theorem lines_cons_lineFeed (rest : List UInt8) :
    lines ⟨lineFeed :: rest, none⟩ = [lineFeed] :: lines ⟨rest, none⟩ := by
  simp only [lines, splitLines, ↓reduceIte]
  split <;> rfl

theorem lines_cons_of_ne {byte : UInt8} {rest : List UInt8} (other : byte ≠ lineFeed) :
    lines ⟨byte :: rest, none⟩ = joinFirst byte (lines ⟨rest, none⟩) := by
  simp only [lines, splitLines, if_neg other]
  rcases splitLines rest with ⟨_ | ⟨piece, pieces⟩, _ | ⟨first, tail⟩⟩ <;> rfl

theorem lines_of_unbroken {tail : List UInt8}
    (unbroken : lineFeed ∉ tail) (nonempty : tail ≠ []) :
    lines ⟨tail, none⟩ = [tail] := by
  induction tail with
  | nil => exact absurd rfl nonempty
  | cons byte tail ih =>
      rcases List.ne_and_not_mem_of_not_mem_cons unbroken with ⟨other, unbroken⟩
      rw [lines_cons_of_ne (Ne.symm other)]
      by_cases ended : tail = []
      · subst tail
        rfl
      · rw [ih unbroken ended, joinFirst]

theorem lines_append_lineFeed {text : List UInt8} (rest : List UInt8)
    (unbroken : lineFeed ∉ text) :
    lines ⟨text ++ lineFeed :: rest, none⟩ = (text ++ [lineFeed]) :: lines ⟨rest, none⟩ := by
  induction text with
  | nil => exact lines_cons_lineFeed rest
  | cons byte text ih =>
      rcases List.ne_and_not_mem_of_not_mem_cons unbroken with ⟨other, unbroken⟩
      rw [List.cons_append, lines_cons_of_ne (Ne.symm other), ih unbroken]
      rfl

end Inflow

theorem IsCut.cons {byte : UInt8} {rest : List UInt8} {pieces : List (List UInt8)}
    (other : byte ≠ lineFeed) (cut : IsCut rest pieces) :
    IsCut (byte :: rest) (joinFirst byte pieces) := by
  cases cut with
  | done =>
      exact .last (by simpa using Ne.symm other) (List.cons_ne_nil _ _)
  | last unbroken _ =>
      exact .last (List.not_mem_cons_of_ne_of_not_mem (Ne.symm other) unbroken) (List.cons_ne_nil _ _)
  | line unbroken later =>
      exact .line (List.not_mem_cons_of_ne_of_not_mem (Ne.symm other) unbroken) later

theorem isCut_lines (bytes : List UInt8) : IsCut bytes (Inflow.lines ⟨bytes, none⟩) := by
  induction bytes with
  | nil => exact .done
  | cons byte rest ih =>
      by_cases ends : byte = lineFeed
      · subst byte
        rw [Inflow.lines_cons_lineFeed]
        exact IsCut.line List.not_mem_nil ih
      · rw [Inflow.lines_cons_of_ne ends]
        exact ih.cons ends

/-- There is one cut, and reading finds it. -/
theorem isCut_iff {bytes : List UInt8} {pieces : List (List UInt8)} :
    IsCut bytes pieces ↔ Inflow.lines ⟨bytes, none⟩ = pieces := by
  constructor
  · intro cut
    induction cut with
    | done => rfl
    | last unbroken nonempty => exact Inflow.lines_of_unbroken unbroken nonempty
    | line unbroken later ih => rw [Inflow.lines_append_lineFeed _ unbroken, ih]
  · rintro rfl
    exact isCut_lines bytes

/-- What consists of whole lines is cut into them. -/
theorem isCut_flatMap {texts : List (List UInt8)}
    (unbroken : ∀ text ∈ texts, lineFeed ∉ text) :
    IsCut (texts.flatMap (· ++ [lineFeed])) (texts.map (· ++ [lineFeed])) := by
  induction texts with
  | nil => exact .done
  | cons text texts ih =>
      have later := ih fun other isIn => unbroken other (List.mem_cons_of_mem _ isIn)
      simpa using IsCut.line (unbroken text List.mem_cons_self) later

/-! ## Numbers -/

theorem newline_not_mem_toDigits {base : Nat} (large : 1 < base) (n : Nat) :
    '\n' ∉ Nat.toDigits base n := by
  induction n using Nat.strongRecOn with
  | ind n ih =>
      rw [Nat.toDigits_eq_if large]
      split
      · simp
      · next notSmall =>
          have shorter := ih (n / base) (Nat.div_lt_self (by omega) large)
          simp [shorter]

namespace Decimal

/-- Numbers are written on one line. -/
theorem allowsNumbers_oneLine : AllowsNumbers (· ≠ '\n') where
  digit c isDigit := by
    rintro rfl
    exact absurd isDigit (by decide)
  minus := by decide
  point := by decide
  exponent := by decide

theorem newline_not_mem_ofInt (n : Int) : '\n' ∉ ofInt n :=
  fun member => allowsNumbers_oneLine.ofInt n '\n' member rfl

/-- A format brings in no line break of its own: its two words are all it adds to the digits. -/
theorem NumberFormat.newline_not_mem_write {format : NumberFormat} (x : Binary64)
    (infinity : '\n' ∉ format.infinity.toList) (notANumber : '\n' ∉ format.notANumber.toList) :
    '\n' ∉ format.write x := by
  have ofInfinity : ∀ c ∈ format.infinity.toList, c ≠ '\n' :=
    fun c member same => infinity (same ▸ member)
  have ofNotANumber : ∀ c ∈ format.notANumber.toList, c ≠ '\n' :=
    fun c member same => notANumber (same ▸ member)
  exact fun member => allowsNumbers_oneLine.write ofInfinity ofNotANumber x '\n' member rfl

end Decimal

/-! ## JSON text -/

theorem Text.mem_joinWith {c : Char} {separator : List Char} {items : List (List Char)}
    (isIn : c ∈ joinWith separator items) :
    c ∈ separator ∨ ∃ item ∈ items, c ∈ item := by
  induction items with
  | nil => simp [joinWith] at isIn
  | cons item rest ih =>
      cases rest with
      | nil => exact .inr ⟨item, List.mem_cons_self, isIn⟩
      | cons next rest =>
          simp only [joinWith, List.append_assoc, List.mem_append] at isIn
          rcases isIn with inItem | inSeparator | later
          · exact .inr ⟨item, List.mem_cons_self, inItem⟩
          · exact .inl inSeparator
          · exact (ih later).imp_right fun ⟨other, isLater, inOther⟩ =>
              ⟨other, List.mem_cons_of_mem _ isLater, inOther⟩

namespace Json

theorem newline_not_mem_controlCode (c : Char) : '\n' ∉ controlCode c := by
  have code : '\n' ∉ Nat.toDigits 16 c.toNat := newline_not_mem_toDigits (by decide) _
  simp [controlCode, code]

theorem newline_not_mem_escapeChar (c : Char) : '\n' ∉ escapeChar c := by
  by_cases newline : c = '\n'
  · subst c
    decide
  · have other : '\n' ≠ c := Ne.symm newline
    unfold escapeChar
    repeat' split
    all_goals simp [newline_not_mem_controlCode, other]

theorem newline_not_mem_writeString (text : String) : '\n' ∉ writeString text := by
  simp [writeString, newline_not_mem_escapeChar]

/-- What stands between brackets is one line if all its items are. -/
theorem newline_not_mem_container {opening closing : Char} {items : List (List Char)}
    (opens : '\n' ≠ opening) (closes : '\n' ≠ closing) (clean : ∀ item ∈ items, '\n' ∉ item) :
    '\n' ∉ opening :: Text.joinWith [','] items ++ [closing] := by
  rw [List.cons_append, List.mem_cons, List.mem_append, List.mem_singleton]
  rintro (isOpening | inside | isClosing)
  · exact opens isOpening
  · rcases Text.mem_joinWith inside with isComma | ⟨item, isItem, inItem⟩
    · exact absurd isComma (by decide)
    · exact clean item isItem inItem
  · exact closes isClosing

mutual

/-- The text of a value is one line. -/
theorem newline_not_mem_write : (json : Json) → '\n' ∉ json.write
  | .null | .unreadable => by decide
  | .bool true | .bool false => by decide
  | .int value => Decimal.newline_not_mem_ofInt value
  | .float value =>
      Decimal.NumberFormat.newline_not_mem_write value (by decide) (by decide)
  | .str value => newline_not_mem_writeString value
  | .arr items =>
      newline_not_mem_container (by decide) (by decide) (newline_not_mem_writeItems items)
  | .obj fields =>
      newline_not_mem_container (by decide) (by decide) (newline_not_mem_writeFields fields)

theorem newline_not_mem_writeItems :
    (items : List Json) → ∀ text ∈ writeItems items, '\n' ∉ text
  | [], _, isIn => absurd isIn List.not_mem_nil
  | item :: rest, text, isIn => by
      rcases List.mem_cons.1 isIn with rfl | later
      · exact newline_not_mem_write item
      · exact newline_not_mem_writeItems rest text later

theorem newline_not_mem_writeFields :
    (fields : List (String × Json)) → ∀ text ∈ writeFields fields, '\n' ∉ text
  | [], _, isIn => absurd isIn List.not_mem_nil
  | (name, value) :: rest, text, isIn => by
      rcases List.mem_cons.1 isIn with rfl | later
      · simp [newline_not_mem_writeString name, newline_not_mem_write value]
      · exact newline_not_mem_writeFields rest text later

end

end Json

/-! ## Bytes -/

namespace Text.Utf8

/-- A byte whose highest bit is set is no line feed. -/
theorem lineFeed_ne_or (byte : UInt8) {mark : UInt8} (high : 0x80 ≤ mark) :
    lineFeed ≠ byte ||| mark := by
  intro same
  have least : mark.toNat ≤ (byte ||| mark).toNat := by
    rw [UInt8.toNat_or]
    exact Nat.right_le_or
  have bound : 0x80 ≤ mark.toNat := UInt8.le_iff_toNat_le.1 high
  rw [← same] at least
  have value : lineFeed.toNat = 10 := rfl
  omega

theorem lineFeed_not_mem_utf8EncodeChar {c : Char} (other : c ≠ '\n') :
    lineFeed ∉ String.utf8EncodeChar c := by
  -- One case for each length of the code; from two bytes on all of them are marked.
  match size : c.utf8Size, c.utf8Size_pos, c.utf8Size_le_four with
  | 1, _, _ =>
      rw [String.utf8EncodeChar_eq_singleton size]
      intro isIn
      have small : c.val.toNat ≤ 127 := UInt32.le_iff_toNat_le.1 (Char.utf8Size_eq_one_iff.1 size)
      have code : c.val.toNat % 256 = 10 := by
        rw [← UInt32.toNat_toUInt8, ← List.mem_singleton.1 isIn]
        rfl
      have value : c.val.toNat = '\n'.val.toNat := by
        rw [← Nat.mod_eq_of_lt (show c.val.toNat < 256 by omega), code]
        rfl
      exact other (Char.ext (UInt32.toNat_inj.1 value))
  | 2, _, _ =>
      rw [String.utf8EncodeChar_eq_cons_cons size]
      simp [lineFeed_ne_or]
  | 3, _, _ =>
      rw [String.utf8EncodeChar_eq_cons_cons_cons size]
      simp [lineFeed_ne_or]
  | 4, _, _ =>
      rw [String.utf8EncodeChar_eq_cons_cons_cons_cons size]
      simp [lineFeed_ne_or]

theorem lineFeed_not_mem_encode {text : List Char} (clean : '\n' ∉ text) :
    lineFeed ∉ encode text := by
  intro isIn
  rcases List.mem_flatMap.1 isIn with ⟨c, inText, inCode⟩
  exact lineFeed_not_mem_utf8EncodeChar (fun same => clean (same ▸ inText)) inCode

end Text.Utf8

end Whittle
