import Mathlib.Tactic.Common
import Whittle.Pattern.Basic

/-!
# What patterns describe

A pattern describes the piece of a text between two places, which it may look at
from both sides (`Describes`).  A search never sees a piece as a whole: it asks
which patterns hold of the empty piece (`nullable_iff`) and what is left of the
others once a character is taken off the front (`takesOff`).  Reading the text
once, it finds a piece exactly if there is one (`isMatch_iff`).

The upper bound of a repetition has to be at least the lower one (`IsOrdered`),
as it is in every pattern that can be written.
-/

namespace Whittle.Pattern

/-! ## Pieces of a text -/

/-- A place in a text, with all that comes after it. -/
structure Cursor where
  before : Option Char
  rest : List Char
deriving DecidableEq

/-- The place of a cursor. -/
def Cursor.place (cursor : Cursor) : Place := ⟨cursor.before, cursor.rest.head?⟩

/-- A number of pieces in a row. -/
def Row (piece : Cursor → Cursor → Prop) : Nat → Cursor → Cursor → Prop
  | 0, start, stop => start = stop
  | count + 1, start, stop => ∃ next, piece start next ∧ Row piece count next stop

/-- Whether a pattern describes the piece between two places of a text. -/
def Describes : Pattern → Cursor → Cursor → Prop
  | .empty, start, stop => start = stop
  | .set chars, start, stop =>
      ∃ c, chars.holdsChar c ∧ start.rest = c :: stop.rest ∧ stop.before = some c
  | .at condition, start, stop => start = stop ∧ condition.holds start.place
  | .seq first second, start, stop =>
      ∃ middle, first.Describes start middle ∧ second.Describes middle stop
  | .alt left right, start, stop => left.Describes start stop ∨ right.Describes start stop
  | .rep copy least most, start, stop =>
      ∃ count, least ≤ count ∧ (∀ bound ∈ most, count ≤ bound) ∧
        Row copy.Describes count start stop

/-- Whether the bounds of all repetitions are in order. -/
def IsOrdered : Pattern → Bool
  | .seq first second => first.IsOrdered && second.IsOrdered
  | .alt left right => left.IsOrdered && right.IsOrdered
  | .rep copy least most => copy.IsOrdered && most.all (least ≤ ·)
  | _ => true

/-! ## Pieces that take nothing -/

/-- Going on in a text: the same place, or one with less after it. -/
def Cursor.Reaches (start stop : Cursor) : Prop :=
  start = stop ∨ stop.rest.length < start.rest.length

namespace Cursor.Reaches

variable {start middle stop : Cursor}

theorem length_le (reaches : start.Reaches stop) : stop.rest.length ≤ start.rest.length := by
  rcases reaches with rfl | less
  · exact Nat.le_refl _
  · exact Nat.le_of_lt less

theorem trans (first : start.Reaches middle) (second : middle.Reaches stop) :
    start.Reaches stop := by
  rcases first with rfl | less
  · exact second
  · exact .inr (Nat.lt_of_le_of_lt second.length_le less)

/-- Who comes back has not moved. -/
theorem eq_of_back (first : start.Reaches middle) (second : middle.Reaches start) :
    middle = start := by
  rcases first with rfl | less
  · rfl
  · exact absurd second.length_le (by omega)

end Cursor.Reaches

theorem Row.reaches {piece : Cursor → Cursor → Prop}
    (moves : ∀ start stop, piece start stop → start.Reaches stop) {count : Nat}
    {start stop : Cursor} (row : Row piece count start stop) : start.Reaches stop := by
  induction count generalizing start with
  | zero => exact .inl row
  | succ count ih =>
      obtain ⟨next, first, others⟩ := row
      exact (moves _ _ first).trans (ih others)

/-- A piece ends where it begins or further on. -/
theorem Describes.reaches (pattern : Pattern) {start stop : Cursor}
    (describes : pattern.Describes start stop) : start.Reaches stop := by
  induction pattern generalizing start stop with
  | empty => exact .inl describes
  | set chars =>
      obtain ⟨c, -, taken, -⟩ := describes
      right
      rw [taken, List.length_cons]
      exact Nat.lt_succ_self _
  | «at» condition => exact .inl describes.1
  | seq first second ofFirst ofSecond =>
      obtain ⟨middle, before, after⟩ := describes
      exact (ofFirst before).trans (ofSecond after)
  | alt left right ofLeft ofRight => exact describes.elim ofLeft ofRight
  | rep copy least most ofCopy =>
      obtain ⟨count, -, -, row⟩ := describes
      exact row.reaches fun _ _ => ofCopy

/-- Copies that take nothing can be put before a row. -/
theorem Row.pad {piece : Cursor → Cursor → Prop} {start stop : Cursor} {count : Nat}
    (nothing : piece start start) (row : Row piece count start stop) :
    ∀ more, Row piece (more + count) start stop
  | 0 => by rwa [Nat.zero_add]
  | more + 1 => by
      rw [Nat.add_right_comm]
      exact ⟨start, nothing, Row.pad nothing row more⟩

/-- The pattern holds of the empty piece at a place exactly if it describes it. -/
theorem nullable_iff (pattern : Pattern) (ordered : pattern.IsOrdered = true) (cursor : Cursor) :
    nullable cursor.place pattern = true ↔ pattern.Describes cursor cursor := by
  induction pattern with
  | empty => simp [nullable, Describes]
  | set chars => simp [nullable, Describes]
  | «at» condition => simp [nullable, Describes]
  | seq first second ofFirst ofSecond =>
      rw [IsOrdered, Bool.and_eq_true] at ordered
      rw [nullable, Bool.and_eq_true, ofFirst ordered.1, ofSecond ordered.2]
      constructor
      · rintro ⟨before, after⟩
        exact ⟨cursor, before, after⟩
      · rintro ⟨middle, before, after⟩
        obtain rfl := (before.reaches).eq_of_back after.reaches
        exact ⟨before, after⟩
  | alt left right ofLeft ofRight =>
      rw [IsOrdered, Bool.and_eq_true] at ordered
      rw [nullable, Bool.or_eq_true, ofLeft ordered.1, ofRight ordered.2]
      rfl
  | rep copy least most ofCopy =>
      rw [IsOrdered, Bool.and_eq_true] at ordered
      rw [nullable, Bool.or_eq_true, beq_iff_eq, ofCopy ordered.1]
      constructor
      · rintro (none | nothing)
        · exact ⟨0, by omega, fun _ _ => Nat.zero_le _, rfl⟩
        · refine ⟨least, Nat.le_refl _, ?_, Row.pad nothing (show Row copy.Describes 0 cursor cursor from rfl) least⟩
          intro bound isBound
          exact of_decide_eq_true ((Option.all_eq_true _ _).1 ordered.2 bound isBound)
      · rintro ⟨count, enough, -, row⟩
        cases count with
        | zero => exact .inl (by omega)
        | succ count =>
            obtain ⟨next, first, others⟩ := row
            have back := Row.reaches (fun _ _ => Describes.reaches copy) others
            obtain rfl := (first.reaches).eq_of_back back
            exact .inr first

/-! ## Taking a character off the front -/

theorem describes_andThen (first second : Pattern) (start stop : Cursor) :
    (first.andThen second).Describes start stop ↔
      ∃ middle, first.Describes start middle ∧ second.Describes middle stop := by
  cases first with
  | empty => simp [andThen, Describes]
  | _ => rfl

/-- A row that gets anywhere has a first copy that does; the ones before it take nothing. -/
theorem Row.exists_first {piece : Cursor → Cursor → Prop} {count : Nat} {start stop : Cursor}
    (row : Row piece count start stop) (moved : stop ≠ start) :
    ∃ idle left next, count = idle + (left + 1) ∧ (0 < idle → piece start start) ∧
      piece start next ∧ next ≠ start ∧ Row piece left next stop := by
  induction count with
  | zero => exact absurd row.symm moved
  | succ count ih =>
      obtain ⟨next, first, others⟩ := row
      by_cases same : next = start
      · subst same
        obtain ⟨idle, left, later, equal, -, rest⟩ := ih others
        exact ⟨idle + 1, left, later, by omega, fun _ => first, rest⟩
      · exact ⟨0, count, next, by omega, fun none => absurd none (by omega), first, same, others⟩

/--
What is left of the pattern once a character is taken off describes what is left
of the pieces that begin with the character.
-/
def TakesOff (before : Option Char) (c : Char) (rest : List Char) (pattern : Pattern) : Prop :=
  ∀ stop, (∃ left ∈ rests ⟨before, some c⟩ c pattern, left.Describes ⟨some c, rest⟩ stop) ↔
    pattern.Describes ⟨before, c :: rest⟩ stop ∧ stop ≠ ⟨before, c :: rest⟩

section TakesOff

variable {before : Option Char} {c : Char} {rest : List Char}

/-- Who goes on behind the character has moved. -/
theorem Cursor.Reaches.ne_before {stop : Cursor}
    (reaches : Cursor.Reaches ⟨some c, rest⟩ stop) : stop ≠ ⟨before, c :: rest⟩ := by
  intro same
  have atMost : stop.rest.length ≤ rest.length := reaches.length_le
  rw [same, List.length_cons] at atMost
  omega

/-- What a first piece leaves is followed by the second one, as it was before. -/
theorem exists_mem_map_andThen {first second : Pattern} (ofFirst : TakesOff before c rest first)
    (stop : Cursor) :
    (∃ left ∈ (rests ⟨before, some c⟩ c first).map (·.andThen second),
        left.Describes ⟨some c, rest⟩ stop) ↔
      ∃ middle, first.Describes ⟨before, c :: rest⟩ middle ∧ middle ≠ ⟨before, c :: rest⟩ ∧
        second.Describes middle stop := by
  constructor
  · rintro ⟨left, isLeft, describes⟩
    obtain ⟨inner, isInner, rfl⟩ := List.mem_map.1 isLeft
    obtain ⟨middle, ofInner, ofSecond⟩ := (describes_andThen inner second _ _).1 describes
    obtain ⟨describes, moved⟩ := (ofFirst middle).1 ⟨inner, isInner, ofInner⟩
    exact ⟨middle, describes, moved, ofSecond⟩
  · rintro ⟨middle, describes, moved, ofSecond⟩
    obtain ⟨inner, isInner, ofInner⟩ := (ofFirst middle).2 ⟨describes, moved⟩
    exact ⟨_, List.mem_map_of_mem isInner,
      (describes_andThen inner second _ _).2 ⟨middle, ofInner, ofSecond⟩⟩

theorem takesOff_set (chars : CharSet) : TakesOff before c rest (.set chars) := by
  intro stop
  rw [rests]
  constructor
  · rintro ⟨left, isLeft, describes⟩
    by_cases holds : chars.holdsChar c = true
    · rw [if_pos holds] at isLeft
      obtain rfl := List.mem_singleton.1 isLeft
      obtain rfl : (⟨some c, rest⟩ : Cursor) = stop := describes
      exact ⟨⟨c, holds, rfl, rfl⟩, Cursor.Reaches.ne_before (.inl rfl)⟩
    · rw [if_neg holds] at isLeft
      cases isLeft
  · rintro ⟨⟨taken, holds, equal, last⟩, -⟩
    obtain ⟨rfl, rfl⟩ := List.cons.inj equal
    rw [if_pos holds]
    refine ⟨.empty, List.mem_singleton.2 rfl, ?_⟩
    show (⟨some c, stop.rest⟩ : Cursor) = stop
    rw [← last]

theorem takesOff_seq {first second : Pattern} (ordered : first.IsOrdered = true)
    (ofFirst : TakesOff before c rest first) (ofSecond : TakesOff before c rest second) :
    TakesOff before c rest (.seq first second) := by
  intro stop
  have nothing : nullable ⟨before, some c⟩ first = true ↔ _ :=
    nullable_iff first ordered ⟨before, c :: rest⟩
  rw [rests]
  constructor
  · rintro ⟨left, isLeft, describes⟩
    rcases List.mem_append.1 isLeft with inFirst | inSecond
    · obtain ⟨middle, begins, -, ends⟩ :=
        (exists_mem_map_andThen ofFirst stop).1 ⟨left, inFirst, describes⟩
      exact ⟨⟨middle, begins, ends⟩, describes.reaches.ne_before⟩
    · by_cases nullable : nullable ⟨before, some c⟩ first = true
      · rw [if_pos nullable] at inSecond
        obtain ⟨ends, moved⟩ := (ofSecond stop).1 ⟨left, inSecond, describes⟩
        exact ⟨⟨_, nothing.1 nullable, ends⟩, moved⟩
      · rw [if_neg nullable] at inSecond
        cases inSecond
  · rintro ⟨⟨middle, begins, ends⟩, moved⟩
    by_cases same : middle = ⟨before, c :: rest⟩
    · subst same
      obtain ⟨left, isLeft, describes⟩ := (ofSecond stop).2 ⟨ends, moved⟩
      rw [if_pos (nothing.2 begins)]
      exact ⟨left, List.mem_append_right _ isLeft, describes⟩
    · obtain ⟨left, isLeft, describes⟩ :=
        (exists_mem_map_andThen ofFirst stop).2 ⟨middle, begins, same, ends⟩
      exact ⟨left, List.mem_append_left _ isLeft, describes⟩

theorem takesOff_alt {left right : Pattern} (ofLeft : TakesOff before c rest left)
    (ofRight : TakesOff before c rest right) : TakesOff before c rest (.alt left right) := by
  intro stop
  have either := or_congr (ofLeft stop) (ofRight stop)
  simp only [rests, List.mem_append, or_and_right, exists_or]
  rw [either, ← or_and_right]
  rfl

/--
A copy that is empty at this place lets any number of the required copies be
passed over, since they can all be empty here.
-/
theorem takesOff_rep {copy : Pattern} {least : Nat} {most : Option Nat}
    (ordered : (Pattern.rep copy least most).IsOrdered = true)
    (ofCopy : TakesOff before c rest copy) : TakesOff before c rest (.rep copy least most) := by
  intro stop
  rw [IsOrdered, Bool.and_eq_true] at ordered
  have atMost : ∀ bound ∈ most, least ≤ bound := fun bound isBound =>
    of_decide_eq_true ((Option.all_eq_true _ _).1 ordered.2 bound isBound)
  have nothing : nullable ⟨before, some c⟩ copy = true ↔ _ :=
    nullable_iff copy ordered.1 ⟨before, c :: rest⟩
  rw [rests]
  by_cases none : most = some 0
  · -- No copy is allowed, so nothing is left and nothing is described but the empty piece.
    rw [if_pos none]
    constructor
    · rintro ⟨left, isLeft, -⟩
      cases isLeft
    · rintro ⟨⟨count, -, bounded, row⟩, moved⟩
      obtain rfl := Nat.le_zero.1 (bounded 0 none)
      exact absurd row.symm moved
  · rw [if_neg none]
    have positive : ∀ bound ∈ most, 0 < bound := by
      intro bound isBound
      rw [Nat.pos_iff_ne_zero]
      rintro rfl
      exact none isBound
    rw [exists_mem_map_andThen ofCopy]
    constructor
    · rintro ⟨middle, begins, moved, count, enough, bounded, row⟩
      have fits : ∀ bound ∈ most, count + 1 ≤ bound := by
        intro bound isBound
        have less := bounded (bound - 1) (by rw [isBound]; rfl)
        have more := positive bound isBound
        omega
      have whole : Row copy.Describes (count + 1) ⟨before, c :: rest⟩ stop := ⟨middle, begins, row⟩
      refine ⟨?_, ?_⟩
      · by_cases nullable : nullable ⟨before, some c⟩ copy = true
        · refine ⟨least - (count + 1) + (count + 1), by omega, ?_,
            Row.pad (nothing.1 nullable) whole _⟩
          intro bound isBound
          have fewest := atMost bound isBound
          have most := fits bound isBound
          omega
        · rw [if_neg nullable] at enough
          exact ⟨count + 1, by omega, fits, whole⟩
      · rintro rfl
        exact moved ((begins.reaches).eq_of_back (row.reaches fun _ _ => Describes.reaches copy))
    · rintro ⟨⟨count, enough, bounded, row⟩, moved⟩
      obtain ⟨idle, left, next, equal, empty, begins, onward, others⟩ := row.exists_first moved
      refine ⟨next, begins, onward, left, ?_, ?_, others⟩
      · by_cases nullable : nullable ⟨before, some c⟩ copy = true
        · rw [if_pos nullable]
          exact Nat.zero_le _
        · have busy : idle = 0 := by
            by_contra isIdle
            exact nullable (nothing.2 (empty (Nat.pos_of_ne_zero isIdle)))
          rw [if_neg nullable]
          omega
      · intro bound isBound
        obtain ⟨whole, isWhole, rfl⟩ := Option.map_eq_some_iff.1 isBound
        have fits := bounded whole isWhole
        omega

theorem takesOff (pattern : Pattern) (ordered : pattern.IsOrdered = true) :
    TakesOff before c rest pattern := by
  induction pattern with
  | empty =>
      intro stop
      simp [rests, Describes, eq_comm]
  | set chars => exact takesOff_set chars
  | «at» condition =>
      intro stop
      simp only [rests, List.not_mem_nil, false_and, exists_false, false_iff, not_and, not_not]
      exact fun describes => describes.1.symm
  | seq first second ofFirst ofSecond =>
      rw [IsOrdered, Bool.and_eq_true] at ordered
      exact takesOff_seq ordered.1 (ofFirst ordered.1) (ofSecond ordered.2)
  | alt left right ofLeft ofRight =>
      rw [IsOrdered, Bool.and_eq_true] at ordered
      exact takesOff_alt (ofLeft ordered.1) (ofRight ordered.2)
  | rep copy least most ofCopy =>
      have ofParts := ordered
      rw [IsOrdered, Bool.and_eq_true] at ofParts
      exact takesOff_rep ordered (ofCopy ofParts.1)

end TakesOff

/-! ## Patterns stay in order -/

theorem isOrdered_andThen {first second : Pattern} (ofFirst : first.IsOrdered = true)
    (ofSecond : second.IsOrdered = true) : (first.andThen second).IsOrdered = true := by
  cases first with
  | empty => exact ofSecond
  | _ => exact Bool.and_eq_true_iff.2 ⟨ofFirst, ofSecond⟩

theorem isOrdered_of_mem_rests {place : Place} {c : Char} {pattern left : Pattern}
    (ordered : pattern.IsOrdered = true) (isLeft : left ∈ rests place c pattern) :
    left.IsOrdered = true := by
  induction pattern generalizing left with
  | empty => cases isLeft
  | set chars =>
      rw [rests] at isLeft
      split at isLeft
      · obtain rfl := List.mem_singleton.1 isLeft
        rfl
      · cases isLeft
  | «at» condition => cases isLeft
  | seq first second ofFirst ofSecond =>
      rw [IsOrdered, Bool.and_eq_true] at ordered
      rcases List.mem_append.1 isLeft with inFirst | inSecond
      · obtain ⟨inner, isInner, rfl⟩ := List.mem_map.1 inFirst
        exact isOrdered_andThen (ofFirst ordered.1 isInner) ordered.2
      · split at inSecond
        · exact ofSecond ordered.2 inSecond
        · cases inSecond
  | alt left right ofLeft ofRight =>
      rw [IsOrdered, Bool.and_eq_true] at ordered
      rcases List.mem_append.1 isLeft with inLeft | inRight
      · exact ofLeft ordered.1 inLeft
      · exact ofRight ordered.2 inRight
  | rep copy least most ofCopy =>
      rw [IsOrdered, Bool.and_eq_true] at ordered
      rw [rests] at isLeft
      split at isLeft
      · cases isLeft
      · obtain ⟨inner, isInner, rfl⟩ := List.mem_map.1 isLeft
        refine isOrdered_andThen (ofCopy ordered.1 isInner) ?_
        rw [IsOrdered, Bool.and_eq_true]
        refine ⟨ordered.1, (Option.all_eq_true _ _).2 ?_⟩
        intro bound isBound
        obtain ⟨whole, isWhole, rfl⟩ := Option.map_eq_some_iff.1 isBound
        have within := of_decide_eq_true ((Option.all_eq_true _ _).1 ordered.2 whole isWhole)
        apply decide_eq_true
        split <;> omega

/-! ## Searches -/

/-- Whether one of the patterns describes a piece that begins at a place. -/
def Begins (patterns : List Pattern) (start : Cursor) : Prop :=
  ∃ pattern ∈ patterns, ∃ stop, pattern.Describes start stop

/-- Whether a pattern describes a piece of the text after a place. -/
def Occurs (pattern : Pattern) (start : Cursor) : Prop :=
  ∃ passed rest, start.rest = passed ++ rest ∧
    ∃ stop, pattern.Describes ⟨passed.getLast?.or start.before, rest⟩ stop

theorem begins_cons (pattern : Pattern) (patterns : List Pattern) (start : Cursor) :
    Begins (pattern :: patterns) start ↔
      (∃ stop, pattern.Describes start stop) ∨ Begins patterns start := by
  simp [Begins]

theorem getLast?_cons_or (c : Char) (passed : List Char) (before : Option Char) :
    (c :: passed).getLast?.or before = passed.getLast?.or (some c) := by
  rw [List.getLast?_cons]
  cases passed.getLast? <;> rfl

/-- A piece begins here, or behind the next character. -/
theorem occurs_cons (pattern : Pattern) (before : Option Char) (c : Char) (rest : List Char) :
    Occurs pattern ⟨before, c :: rest⟩ ↔
      (∃ stop, pattern.Describes ⟨before, c :: rest⟩ stop) ∨ Occurs pattern ⟨some c, rest⟩ := by
  constructor
  · rintro ⟨passed, left, equal, describes⟩
    cases passed with
    | nil =>
        obtain rfl : c :: rest = left := equal
        exact .inl describes
    | cons first passed =>
        obtain ⟨rfl, rfl⟩ := List.cons.inj equal
        rw [getLast?_cons_or] at describes
        exact .inr ⟨passed, left, rfl, describes⟩
  · rintro (describes | ⟨passed, left, equal, describes⟩)
    · exact ⟨[], c :: rest, rfl, describes⟩
    · refine ⟨c :: passed, left, congrArg _ equal, ?_⟩
      rw [getLast?_cons_or]
      exact describes

theorem occurs_nil (pattern : Pattern) (before : Option Char) :
    Occurs pattern ⟨before, []⟩ ↔ ∃ stop, pattern.Describes ⟨before, []⟩ stop := by
  constructor
  · rintro ⟨passed, left, equal, describes⟩
    obtain ⟨rfl, rfl⟩ := List.nil_eq_append_iff.1 equal
    exact describes
  · intro describes
    exact ⟨[], [], rfl, describes⟩

/-- At the end of a text only the empty piece begins. -/
theorem exists_describes_nil_iff {pattern : Pattern} (ordered : pattern.IsOrdered = true)
    (before : Option Char) :
    (∃ stop, pattern.Describes ⟨before, []⟩ stop) ↔ nullable ⟨before, none⟩ pattern = true := by
  have nothing : nullable ⟨before, none⟩ pattern = true ↔ _ :=
    nullable_iff pattern ordered ⟨before, []⟩
  rw [nothing]
  constructor
  · rintro ⟨stop, describes⟩
    rcases describes.reaches with rfl | less
    · exact describes
    · exact absurd less (Nat.not_lt_zero _)
  · intro describes
    exact ⟨_, describes⟩

/-- A piece that begins before a character is empty or begins with the character. -/
theorem exists_describes_cons_iff {pattern : Pattern} (ordered : pattern.IsOrdered = true)
    (before : Option Char) (c : Char) (rest : List Char) :
    (∃ stop, pattern.Describes ⟨before, c :: rest⟩ stop) ↔
      nullable ⟨before, some c⟩ pattern = true ∨
        Begins (rests ⟨before, some c⟩ c pattern) ⟨some c, rest⟩ := by
  have nothing : nullable ⟨before, some c⟩ pattern = true ↔ _ :=
    nullable_iff pattern ordered ⟨before, c :: rest⟩
  have off : TakesOff before c rest pattern := takesOff pattern ordered
  constructor
  · rintro ⟨stop, describes⟩
    by_cases same : stop = ⟨before, c :: rest⟩
    · subst same
      exact .inl (nothing.2 describes)
    · obtain ⟨left, isLeft, ofLeft⟩ := (off stop).2 ⟨describes, same⟩
      exact .inr ⟨left, isLeft, stop, ofLeft⟩
  · rintro (nullable | ⟨left, isLeft, stop, ofLeft⟩)
    · exact ⟨_, nothing.1 nullable⟩
    · exact ⟨stop, ((off stop).1 ⟨left, isLeft, ofLeft⟩).1⟩

/-- The search finds the pieces that have begun, and those that begin in the rest of the text. -/
theorem searchFrom_iff {pattern : Pattern} (ordered : pattern.IsOrdered = true)
    (before : Option Char) (started : List Pattern)
    (startedOrdered : ∀ left ∈ started, left.IsOrdered = true) (text : List Char) :
    searchFrom pattern before started text = true ↔
      Begins started ⟨before, text⟩ ∨ Occurs pattern ⟨before, text⟩ := by
  induction text generalizing before started with
  | nil =>
      have ends : Begins started ⟨before, []⟩ ↔
          ∃ left ∈ started, nullable ⟨before, none⟩ left = true := by
        refine exists_congr fun left => and_congr_right fun isIn => ?_
        exact exists_describes_nil_iff (startedOrdered left isIn) before
      rw [searchFrom, List.any_cons, Bool.or_eq_true, List.any_eq_true, ends, occurs_nil,
        exists_describes_nil_iff ordered, or_comm]
  | cons c rest ih =>
      have allOrdered : ∀ left ∈ pattern :: started, left.IsOrdered = true :=
        List.forall_mem_cons.2 ⟨ordered, startedOrdered⟩
      have nextOrdered : ∀ left ∈
          ((pattern :: started).flatMap (rests ⟨before, some c⟩ c)).eraseDups,
          left.IsOrdered = true := by
        intro left isLeft
        rw [List.mem_eraseDups, List.mem_flatMap] at isLeft
        obtain ⟨whole, isIn, isLeft⟩ := isLeft
        exact isOrdered_of_mem_rests (allOrdered whole isIn) isLeft
      have next : Begins ((pattern :: started).flatMap (rests ⟨before, some c⟩ c)).eraseDups
          ⟨some c, rest⟩ ↔
            ∃ left ∈ pattern :: started, Begins (rests ⟨before, some c⟩ c left) ⟨some c, rest⟩ := by
        simp only [Begins, List.mem_eraseDups, List.mem_flatMap]
        constructor
        · rintro ⟨left, ⟨whole, isIn, isLeft⟩, describes⟩
          exact ⟨whole, isIn, left, isLeft, describes⟩
        · rintro ⟨whole, isIn, left, isLeft, describes⟩
          exact ⟨left, ⟨whole, isIn, isLeft⟩, describes⟩
      have here : Begins (pattern :: started) ⟨before, c :: rest⟩ ↔
          (∃ left ∈ pattern :: started, nullable ⟨before, some c⟩ left = true) ∨
            ∃ left ∈ pattern :: started, Begins (rests ⟨before, some c⟩ c left) ⟨some c, rest⟩ := by
        rw [← exists_or]
        refine exists_congr fun left => ?_
        rw [← and_or_left]
        refine and_congr_right fun isIn => ?_
        exact exists_describes_cons_iff (allOrdered left isIn) before c rest
      rw [begins_cons] at here
      rw [searchFrom, Bool.or_eq_true, List.any_eq_true, ih _ _ nextOrdered, next, ← or_assoc,
        ← here, occurs_cons, ← or_assoc, or_comm (b := Begins started _)]

/-- A text matches a pattern exactly if the pattern describes a piece of it. -/
theorem isMatch_iff {pattern : Pattern} (ordered : pattern.IsOrdered = true) (text : String) :
    pattern.isMatch text = true ↔
      ∃ passed rest, text.toList = passed ++ rest ∧
        ∃ stop, pattern.Describes ⟨passed.getLast?, rest⟩ stop := by
  rw [isMatch, searchFrom_iff ordered none [] (by simp)]
  have nothing : ¬ Begins [] ⟨none, text.toList⟩ := by simp [Begins]
  rw [or_iff_right nothing]
  simp [Occurs]

end Whittle.Pattern
