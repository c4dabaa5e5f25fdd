import Mathlib.Computability.Language
import Whittle.Proofs.WrittenPatterns
import Whittle.Sandbox.Harness

/-!
# Reports of failed assertions

The standard pattern recognises the usual reports of failed assertions: the word
`assertion`, the asserted text between backticks or nothing, and `failed`, with
one space between them and letters in any case.  What a pattern without
conditions describes is a language (`Means`), so the language of the pattern is
put together from those of its parts.

Two letters are the same up to case if simple case folding sends them to the same
one; the small letters of the two words are what it sends them to.
-/

namespace Whittle

/-! ## Letters up to case -/

namespace Unicode

/-- Whether case folding leaves a code point as it is. -/
def IsSettled (point : Nat) : Prop :=
  ∀ run ∈ foldRuns, run.covers point = false

instance (point : Nat) : Decidable (IsSettled point) :=
  inferInstanceAs (Decidable (∀ run ∈ foldRuns, run.covers point = false))

/-- Whether case folding leaves all letters of a word as they are. -/
def IsSettledWord (word : List Char) : Prop :=
  ∀ c ∈ word, IsSettled c.toNat

-- All characters can be tried as well, so the instance has to say that those of the word are.
instance (word : List Char) : Decidable (IsSettledWord word) :=
  List.decidableBAll (fun c : Char => IsSettled c.toNat) word

theorem foldPoint_of_isSettled {point : Nat} (settled : IsSettled point) :
    foldPoint point = point := by
  have none : foldRuns.find? (·.covers point) = none := by
    rw [List.find?_eq_none]
    intro run isRun
    simp [settled run isRun]
  rw [foldPoint, none]

/-- A point that folding leaves as it is is the same up to case as those that fold to it. -/
theorem mem_foldOrbit_iff {point target : Nat} (settled : IsSettled target) :
    target ∈ foldOrbit point ↔ foldPoint point = target := by
  rw [foldOrbit, List.mem_cons, List.mem_filterMap]
  constructor
  · rintro (same | ⟨run, isRun, source⟩)
    · exact same.symm
    · dsimp only at source
      split at source
      · rename_i covers
        obtain rfl := Option.some.inj source
        rw [settled run isRun] at covers
        cases covers
      · cases source
  · exact fun same => .inl same.symm

/-- No run goes below zero. -/
theorem zero_le_add_shift {run : FoldRun} (isRun : run ∈ foldRuns) :
    0 ≤ (run.first : Int) + run.shift := by
  have all : ∀ run ∈ foldRuns, 0 ≤ (run.first : Int) + run.shift := by decide +kernel
  exact all run isRun

/-- What folds to the same point as another one is found among those that do. -/
theorem mem_foldOrbit_of_foldPoint_eq {point other : Nat}
    (same : foldPoint point = foldPoint other) : point ∈ foldOrbit other := by
  rw [foldOrbit, List.mem_cons, List.mem_filterMap, ← same]
  rw [foldPoint]
  cases found : foldRuns.find? (·.covers point) with
  | none => exact .inl rfl
  | some run =>
      right
      have isRun := List.mem_of_find?_eq_some found
      have covers : run.covers point = true := by simpa using List.find?_some found
      have least : run.first ≤ point := by
        simp only [FoldRun.covers, Bool.and_eq_true, decide_eq_true_eq] at covers
        exact covers.1.1
      have positive := zero_le_add_shift isRun
      have back : ((((point : Int) + run.shift).toNat : Int) - run.shift).toNat = point := by
        omega
      exact ⟨run, isRun, by rw [back, if_pos covers]⟩

/-- The long letter is an `s` up to case, and so are the capital and the small one. -/
theorem sameFold_s_iff (c : Char) : sameFold c 's' = true ↔ c = 's' ∨ c = 'S' ∨ c = 'ſ' := by
  rw [sameFold, beq_iff_eq]
  constructor
  · intro same
    have among := mem_foldOrbit_of_foldPoint_eq same
    have orbit : foldOrbit 's'.toNat = ['s'.toNat, 'S'.toNat, 'ſ'.toNat] := by decide
    rw [orbit] at among
    simp only [List.mem_cons, List.not_mem_nil, or_false] at among
    exact among.imp Char.toNat_inj.1 (Or.imp Char.toNat_inj.1 Char.toNat_inj.1)
  · rintro (rfl | rfl | rfl) <;> decide

/-- A character that is alone in its orbit is the same up to case as no other one. -/
theorem sameFold_iff_of_orbit {c : Char} (alone : foldOrbit c.toNat = [c.toNat]) (other : Char) :
    sameFold other c = true ↔ other = c := by
  rw [sameFold, beq_iff_eq]
  constructor
  · intro same
    have among := mem_foldOrbit_of_foldPoint_eq same
    rw [alone, List.mem_singleton] at among
    exact Char.toNat_inj.1 among
  · rintro rfl
    rfl

end Unicode

open Unicode (IsSettled sameFold)

namespace Pattern

/-! ## Languages of patterns -/

/-- Going on in a text over a piece of it. -/
def Cursor.Spans (start stop : Cursor) (piece : List Char) : Prop :=
  start.rest = piece ++ stop.rest ∧ stop.before = piece.getLast?.or start.before

theorem Cursor.spans_nil_iff (start stop : Cursor) : start.Spans stop [] ↔ start = stop := by
  rcases start with ⟨before, rest⟩
  rcases stop with ⟨stopBefore, stopRest⟩
  simp only [Spans, List.nil_append, List.getLast?_nil, Option.none_or, Cursor.mk.injEq]
  exact ⟨fun ⟨same, last⟩ => ⟨last.symm, same⟩, fun ⟨last, same⟩ => ⟨same, last.symm⟩⟩

theorem Cursor.Spans.append {start middle stop : Cursor} {first second : List Char}
    (begins : start.Spans middle first) (ends : middle.Spans stop second) :
    start.Spans stop (first ++ second) := by
  constructor
  · rw [begins.1, ends.1, List.append_assoc]
  · rw [ends.2, begins.2, List.getLast?_append, Option.or_assoc]

theorem Cursor.Spans.exists_middle {start stop : Cursor} {first second : List Char}
    (spans : start.Spans stop (first ++ second)) :
    ∃ middle, start.Spans middle first ∧ middle.Spans stop second := by
  refine ⟨⟨first.getLast?.or start.before, second ++ stop.rest⟩, ⟨?_, rfl⟩, rfl, ?_⟩
  · rw [spans.1, List.append_assoc]
  · rw [spans.2, List.getLast?_append, Option.or_assoc]

/-- The pattern describes the pieces of a language, wherever they stand. -/
def Means (pattern : Pattern) (language : Language Char) : Prop :=
  ∀ start stop, pattern.Describes start stop ↔ ∃ piece ∈ language, start.Spans stop piece

theorem means_empty : Means .empty 1 := by
  intro start stop
  simp only [Describes, Language.mem_one, exists_eq_left, Cursor.spans_nil_iff]

/-- The single characters of a set. -/
def oneOf (chars : CharSet) : Language Char :=
  {piece | ∃ c, chars.holdsChar c = true ∧ piece = [c]}

theorem mem_oneOf {chars : CharSet} {piece : List Char} :
    piece ∈ oneOf chars ↔ ∃ c, chars.holdsChar c = true ∧ piece = [c] :=
  Iff.rfl

theorem means_set (chars : CharSet) : Means (.set chars) (oneOf chars) := by
  intro start stop
  constructor
  · rintro ⟨c, holds, taken, last⟩
    exact ⟨[c], ⟨c, holds, rfl⟩, taken, last⟩
  · rintro ⟨piece, ⟨c, holds, rfl⟩, taken, last⟩
    exact ⟨c, holds, taken, last⟩

theorem Means.seq {first second : Pattern} {before after : Language Char}
    (ofFirst : first.Means before) (ofSecond : second.Means after) :
    (Pattern.seq first second).Means (before * after) := by
  intro start stop
  constructor
  · rintro ⟨middle, begins, ends⟩
    obtain ⟨piece, isBefore, spans⟩ := (ofFirst start middle).1 begins
    obtain ⟨other, isAfter, others⟩ := (ofSecond middle stop).1 ends
    exact ⟨piece ++ other, Language.append_mem_mul isBefore isAfter, spans.append others⟩
  · rintro ⟨whole, isWhole, spans⟩
    obtain ⟨piece, isBefore, other, isAfter, rfl⟩ := Language.mem_mul.1 isWhole
    obtain ⟨middle, begins, ends⟩ := spans.exists_middle
    exact ⟨middle, (ofFirst start middle).2 ⟨piece, isBefore, begins⟩,
      (ofSecond middle stop).2 ⟨other, isAfter, ends⟩⟩

/-- One copy or none. -/
theorem Means.optional {copy : Pattern} {language : Language Char} (ofCopy : copy.Means language) :
    (Pattern.rep copy 0 (some 1)).Means (1 + language) := by
  intro start stop
  have single : (Pattern.rep copy 0 (some 1)).Describes start stop ↔
      start = stop ∨ copy.Describes start stop := by
    constructor
    · rintro ⟨count, -, bounded, row⟩
      have atMost := bounded 1 rfl
      match count, atMost, row with
      | 0, _, row => exact .inl row
      | 1, _, ⟨next, first, rest⟩ =>
          obtain rfl : next = stop := rest
          exact .inr first
    · rintro (same | described)
      · exact ⟨0, Nat.le_refl _, fun _ _ => Nat.zero_le _, same⟩
      · refine ⟨1, Nat.zero_le _, ?_, stop, described, rfl⟩
        intro bound isBound
        exact Nat.le_of_eq (Option.some.inj isBound)
  rw [single, ofCopy start stop]
  simp only [Language.mem_add, Language.mem_one, or_and_right, exists_or, exists_eq_left,
    Cursor.spans_nil_iff]

/-- The texts that are made of characters of a set. -/
def manyOf (chars : CharSet) : Language Char :=
  {piece | ∀ c ∈ piece, chars.holdsChar c = true}

theorem mem_manyOf {chars : CharSet} {piece : List Char} :
    piece ∈ manyOf chars ↔ ∀ c ∈ piece, chars.holdsChar c = true :=
  Iff.rfl

/-- Any number of characters of a set. -/
theorem means_many (chars : CharSet) : Means (.rep (.set chars) 0 none) (manyOf chars) := by
  intro start stop
  constructor
  · rintro ⟨count, -, -, row⟩
    induction count generalizing start with
    | zero => exact ⟨[], mem_manyOf.2 (by simp), (Cursor.spans_nil_iff _ _).2 row⟩
    | succ count ih =>
        obtain ⟨next, first, others⟩ := row
        obtain ⟨piece, ⟨c, holds, rfl⟩, spans⟩ := (means_set chars start next).1 first
        obtain ⟨rest, allHold, restSpans⟩ := ih next others
        exact ⟨[c] ++ rest, List.forall_mem_cons.2 ⟨holds, allHold⟩, spans.append restSpans⟩
  · rintro ⟨piece, allHold, spans⟩
    rw [mem_manyOf] at allHold
    refine ⟨piece.length, Nat.zero_le _, by simp, ?_⟩
    induction piece generalizing start with
    | nil => exact (Cursor.spans_nil_iff _ _).1 spans
    | cons c rest ih =>
        obtain ⟨holds, restHold⟩ := List.forall_mem_cons.1 allHold
        have parted : start.Spans stop ([c] ++ rest) := spans
        obtain ⟨next, first, others⟩ := parted.exists_middle
        exact ⟨next, (means_set chars start next).2 ⟨[c], ⟨c, holds, rfl⟩, first⟩,
          ih next restHold others⟩

/-- What one pattern after the other means. -/
theorem Means.sequence_cons {first : Pattern} {others : List Pattern}
    {before after : Language Char} (ofFirst : first.Means before)
    (ofOthers : (sequence others).Means after) :
    (sequence (first :: others)).Means (before * after) := by
  cases others with
  | nil =>
      intro start stop
      rw [← (ofFirst.seq ofOthers) start stop]
      simp [sequence, Describes]
  | cons next rest => exact ofFirst.seq ofOthers

/-! ## Words in any case -/

/-- The spellings of a word with letters in any case. -/
def spellings (word : List Char) : Language Char :=
  {piece | List.Forall₂ (fun c letter => sameFold c letter = true) piece word}

theorem mem_spellings {word piece : List Char} :
    piece ∈ spellings word ↔
      List.Forall₂ (fun c letter => sameFold c letter = true) piece word :=
  Iff.rfl

/-- A letter that stands for both cases. -/
def letter (c : Char) : Pattern :=
  .set (.folded (.single c))

theorem holdsChar_folded_single {c : Char} (settled : IsSettled c.toNat) (other : Char) :
    (CharSet.folded (.single c)).holdsChar other = true ↔ sameFold other c = true := by
  have within (point : Nat) : (CharSet.single c).holds point = true ↔ point = c.toNat := by
    simp only [CharSet.single, CharSet.holds, Bool.and_eq_true, decide_eq_true_eq]
    omega
  rw [CharSet.holdsChar, CharSet.holds, List.any_eq_true, sameFold, beq_iff_eq,
    Unicode.foldPoint_of_isSettled settled, ← Unicode.mem_foldOrbit_iff settled]
  simp only [within, exists_eq_right]

/-- A word and what comes after it. -/
theorem means_word {word : List Char} (settled : Unicode.IsSettledWord word)
    {others : List Pattern} {after : Language Char} (ofOthers : (sequence others).Means after) :
    (sequence (word.map letter ++ others)).Means (spellings word * after) := by
  induction word with
  | nil =>
      have one : spellings [] = 1 := by
        ext piece
        exact List.forall₂_nil_right_iff
      rw [one, one_mul]
      exact ofOthers
  | cons c rest ih =>
      obtain ⟨ofFirst, ofRest⟩ := List.forall_mem_cons.1 settled
      have parted : spellings (c :: rest) =
          oneOf (.folded (.single c)) * spellings rest := by
        ext piece
        rw [Language.mem_mul, mem_spellings, List.forall₂_cons_right_iff]
        constructor
        · rintro ⟨other, left, same, isLeft, rfl⟩
          exact ⟨[other], ⟨other, (holdsChar_folded_single ofFirst other).2 same, rfl⟩, left,
            isLeft, rfl⟩
        · rintro ⟨single, ⟨other, holds, rfl⟩, left, isLeft, rfl⟩
          exact ⟨other, left, (holdsChar_folded_single ofFirst other).1 holds, isLeft, rfl⟩
      rw [parted, mul_assoc]
      exact (means_set _).sequence_cons (ih ofRest)

/-! ## The standard pattern -/

/-- All characters but the backtick. -/
def notBacktick : CharSet :=
  .compl (.folded (.union .empty (.single '`')))

/-- A space and a text between backticks. -/
def quotation : Pattern :=
  sequence ([' ', '`'].map letter ++ [.rep (.set notBacktick) 0 none, letter '`'])

/-- What the standard pattern is read as. -/
def report : Pattern :=
  sequence ("assertion".toList.map letter ++
    .rep quotation 0 (some 1) :: (" failed".toList.map letter ++ []))

theorem ofText?_standardPattern : ofText? SandboxConfig.standardPattern = some report := by
  decide +kernel

theorem sameFold_space_iff (c : Char) : sameFold c ' ' = true ↔ c = ' ' :=
  Unicode.sameFold_iff_of_orbit (by decide +kernel) c

theorem sameFold_backtick_iff (c : Char) : sameFold c '`' = true ↔ c = '`' :=
  Unicode.sameFold_iff_of_orbit (by decide +kernel) c

theorem isSettled_backtick : IsSettled '`'.toNat := by
  decide +kernel

theorem holdsChar_notBacktick (c : Char) : notBacktick.holdsChar c = true ↔ c ≠ '`' := by
  have same : notBacktick.holdsChar c = !(CharSet.folded (.single '`')).holdsChar c := by
    simp [notBacktick, CharSet.holdsChar, CharSet.holds]
  rw [same, Bool.not_eq_true', ← Bool.not_eq_true, holdsChar_folded_single isSettled_backtick,
    sameFold_backtick_iff]

/-- The texts without backticks between two of them, after a space. -/
def quotations : Language Char :=
  {piece | ∃ quoted, '`' ∉ quoted ∧ piece = [' ', '`'] ++ quoted ++ ['`']}

theorem mem_quotations {piece : List Char} :
    piece ∈ quotations ↔ ∃ quoted, '`' ∉ quoted ∧ piece = [' ', '`'] ++ quoted ++ ['`'] :=
  Iff.rfl

theorem quotations_eq :
    quotations = spellings [' ', '`'] *
      (manyOf notBacktick * oneOf (.folded (.single '`'))) := by
  have opening (start : List Char) : start ∈ spellings [' ', '`'] ↔ start = [' ', '`'] := by
    simp only [mem_spellings, List.forall₂_cons_right_iff, List.forall₂_nil_right_iff,
      sameFold_space_iff, sameFold_backtick_iff]
    constructor
    · rintro ⟨_, _, rfl, ⟨_, _, rfl, rfl, rfl⟩, rfl⟩
      rfl
    · rintro rfl
      exact ⟨_, _, rfl, ⟨_, _, rfl, rfl, rfl⟩, rfl⟩
  have closing (last : List Char) : last ∈ oneOf (.folded (.single '`')) ↔ last = ['`'] := by
    simp only [mem_oneOf, holdsChar_folded_single isSettled_backtick, sameFold_backtick_iff,
      exists_eq_left]
  have inside (quoted : List Char) : quoted ∈ manyOf notBacktick ↔ '`' ∉ quoted := by
    simp only [mem_manyOf, holdsChar_notBacktick]
    constructor
    · intro others isIn
      exact others _ isIn rfl
    · rintro outside c isIn rfl
      exact outside isIn
  ext piece
  simp only [mem_quotations, Language.mem_mul, opening, closing, inside, exists_eq_left]
  constructor
  · rintro ⟨quoted, outside, rfl⟩
    exact ⟨_, ⟨quoted, outside, rfl⟩, by simp⟩
  · rintro ⟨_, ⟨quoted, outside, rfl⟩, rfl⟩
    exact ⟨quoted, outside, by simp⟩

theorem means_quotation : quotation.Means quotations := by
  rw [quotations_eq]
  refine means_word ?_ ((means_many notBacktick).sequence_cons (means_set _))
  decide +kernel

/-- What stands between the two words of a report: a space, with or without a quotation. -/
def IsBetween (middle : List Char) : Prop :=
  middle = [' '] ∨ ∃ quoted, '`' ∉ quoted ∧ middle = [' ', '`'] ++ quoted ++ ['`', ' ']

/-- The reports of failed assertions. -/
def reports : Language Char :=
  {piece | ∃ assertion ∈ spellings "assertion".toList, ∃ middle, IsBetween middle ∧
    ∃ failed ∈ spellings "failed".toList, piece = assertion ++ middle ++ failed}

theorem mem_reports {piece : List Char} :
    piece ∈ reports ↔ ∃ assertion ∈ spellings "assertion".toList, ∃ middle, IsBetween middle ∧
      ∃ failed ∈ spellings "failed".toList, piece = assertion ++ middle ++ failed :=
  Iff.rfl

theorem reports_eq :
    reports = spellings "assertion".toList *
      ((1 + quotations) * (spellings " failed".toList * 1)) := by
  have spaced (text : List Char) : text ∈ spellings " failed".toList ↔
      ∃ failed ∈ spellings "failed".toList, text = ' ' :: failed := by
    show text ∈ spellings (' ' :: "failed".toList) ↔ _
    simp only [mem_spellings, List.forall₂_cons_right_iff, sameFold_space_iff]
    constructor
    · rintro ⟨_, failed, rfl, isFailed, rfl⟩
      exact ⟨failed, isFailed, rfl⟩
    · rintro ⟨failed, isFailed, rfl⟩
      exact ⟨_, failed, rfl, isFailed, rfl⟩
  ext piece
  rw [mul_one, mem_reports, Language.mem_mul]
  refine exists_congr fun assertion => and_congr_right fun _ => ?_
  simp only [Language.mem_mul, Language.mem_add, Language.mem_one, mem_quotations, spaced]
  constructor
  · rintro ⟨_, rfl | ⟨quoted, outside, rfl⟩, failed, isFailed, rfl⟩
    · exact ⟨_, ⟨[], .inl rfl, _, ⟨failed, isFailed, rfl⟩, rfl⟩, by simp⟩
    · exact ⟨_, ⟨_, .inr ⟨quoted, outside, rfl⟩, _, ⟨failed, isFailed, rfl⟩, rfl⟩, by simp⟩
  · rintro ⟨_, ⟨_, rfl | ⟨quoted, outside, rfl⟩, _, ⟨failed, isFailed, rfl⟩, rfl⟩, rfl⟩
    · exact ⟨_, .inl rfl, failed, isFailed, by simp⟩
    · exact ⟨_, .inr ⟨quoted, outside, rfl⟩, failed, isFailed, by simp⟩

theorem means_report : report.Means reports := by
  rw [reports_eq]
  refine means_word ?_ (means_quotation.optional.sequence_cons (means_word ?_ means_empty))
  · decide +kernel
  · decide +kernel

/--
The standard pattern can be read, and it recognises exactly the messages that
contain a report: the word `assertion` and the word `failed`, each in letters of
any case, and between them one space, or a text without backticks between two of
them, with one space before it and one after it.
-/
theorem standardPattern_recognises_reports :
    ∃ matcher, ofText? SandboxConfig.standardPattern = some matcher ∧
      (∀ message : String, matcher.isMatch message = true ↔
        ∃ passed rest, ∃ assertion ∈ spellings "assertion".toList, ∃ middle,
          ∃ failed ∈ spellings "failed".toList,
            (middle = [' '] ∨
              ∃ quoted, '`' ∉ quoted ∧ middle = [' ', '`'] ++ quoted ++ ['`', ' ']) ∧
            message.toList = passed ++ assertion ++ middle ++ failed ++ rest) ∧
      ∀ c, sameFold c 's' = true ↔ c = 's' ∨ c = 'S' ∨ c = 'ſ' := by
  refine ⟨report, ofText?_standardPattern, ?_, Unicode.sameFold_s_iff⟩
  intro message
  rw [isMatch_of_ofText? ofText?_standardPattern]
  constructor
  · rintro ⟨passed, _, whole, stop, described⟩
    obtain ⟨piece, isReport, spans⟩ := (means_report _ _).1 described
    obtain ⟨assertion, isAssertion, middle, isBetween, failed, isFailed, rfl⟩ :=
      mem_reports.1 isReport
    refine ⟨passed, stop.rest, assertion, isAssertion, middle, failed, isFailed, isBetween, ?_⟩
    obtain rfl : _ = assertion ++ middle ++ failed ++ stop.rest := spans.1
    rw [whole]
    simp only [List.append_assoc]
  · rintro ⟨passed, rest, assertion, isAssertion, middle, failed, isFailed, isBetween, whole⟩
    have isReport := mem_reports.2
      ⟨assertion, isAssertion, middle, isBetween, failed, isFailed, rfl⟩
    refine ⟨passed, assertion ++ middle ++ failed ++ rest, ?_, _,
      (means_report _ ⟨_, rest⟩).2 ⟨_, isReport, rfl, rfl⟩⟩
    rw [whole]
    simp only [List.append_assoc]

end Pattern

end Whittle
