import Whittle.Text.Quoted
import Whittle.Text.Search

/-!
# What is left of a text without its comments

A compiler skips comments: from two slashes to the end of the line, and from a
slash and a star to the first star and slash, but not in strings and characters.
Reading a text keeps the characters of all the rest, and of each whether it
belongs to a literal.  Two texts are the same to a compiler if what is left of
them is the same up to how much blank space there is outside of the literals.

A piece of a text is legible if it is read by itself, whatever comes after it:
nothing in it begins a comment, and every literal in it ends in it.
-/

namespace Whittle

namespace Text

/-! ## Reading -/

/-- A character that is not part of a comment. -/
structure Lexeme where
  char : Char
  /-- Whether it is part of a string or a character literal. -/
  quoted : Bool
deriving Repr, DecidableEq

/-- What the next character is part of. -/
inductive Reading where
  | code
  | lineComment
  | blockComment
  /-- A literal, with the quote that closes it. -/
  | literal (quote : Char)
deriving Repr, DecidableEq

def isQuote (c : Char) : Bool :=
  c == Quoted.doubleQuote || c == Quoted.singleQuote

/-- What is left of a text without its comments. -/
def read : Reading → List Char → List Lexeme
  | .code, '/' :: '/' :: rest => read .lineComment rest
  | .code, '/' :: '*' :: rest => read .blockComment rest
  | .code, c :: rest =>
      if isQuote c then ⟨c, true⟩ :: read (.literal c) rest else ⟨c, false⟩ :: read .code rest
  | .lineComment, '\n' :: rest => ⟨'\n', false⟩ :: read .code rest
  | .lineComment, _ :: rest => read .lineComment rest
  | .blockComment, '*' :: '/' :: rest => read .code rest
  | .blockComment, _ :: rest => read .blockComment rest
  | .literal quote, '\\' :: c :: rest => ⟨'\\', true⟩ :: ⟨c, true⟩ :: read (.literal quote) rest
  | .literal quote, c :: rest =>
      ⟨c, true⟩ :: read (if c = quote then .code else .literal quote) rest
  | _, [] => []

/-- What is left of a whole text. -/
def lexemes (text : List Char) : List Lexeme :=
  read .code text

/-! ## Blank space -/

namespace Lexeme

/-- A space or a newline outside of literals. -/
def isBlank (lexeme : Lexeme) : Bool :=
  !lexeme.quoted && (lexeme.char == ' ' || lexeme.char == '\n')

/-- The blank space that is left where there was any. -/
def space : Lexeme := ⟨' ', false⟩

/-- Blank space made as short as possible, with none after other blank space. -/
def squeeze : Bool → List Lexeme → List Lexeme
  | _, [] => []
  | afterBlank, lexeme :: rest =>
      if lexeme.isBlank then
        if afterBlank then squeeze true rest else space :: squeeze true rest
      else lexeme :: squeeze false rest

/-- Whether there is blank space before what follows. -/
def endsBlank : Bool → List Lexeme → Bool
  | afterBlank, [] => afterBlank
  | _, lexeme :: rest => endsBlank lexeme.isBlank rest

theorem squeeze_append (afterBlank : Bool) (first second : List Lexeme) :
    squeeze afterBlank (first ++ second) =
      squeeze afterBlank first ++ squeeze (endsBlank afterBlank first) second := by
  induction first generalizing afterBlank with
  | nil => rfl
  | cons lexeme rest ih =>
      cases blank : lexeme.isBlank <;> cases afterBlank <;>
        simp [squeeze, endsBlank, blank, ih]

theorem endsBlank_append (afterBlank : Bool) (first second : List Lexeme) :
    endsBlank afterBlank (first ++ second) = endsBlank (endsBlank afterBlank first) second := by
  induction first generalizing afterBlank with
  | nil => rfl
  | cons lexeme rest ih => simp [endsBlank, ih]

/-- Blank space after blank space does not count. -/
theorem squeeze_blank {blanks : List Lexeme} (areBlank : ∀ lexeme ∈ blanks, lexeme.isBlank = true) :
    squeeze true blanks = [] ∧ endsBlank true blanks = true := by
  induction blanks with
  | nil => exact ⟨rfl, rfl⟩
  | cons lexeme rest ih =>
      rcases List.forall_mem_cons.mp areBlank with ⟨isBlank, ofRest⟩
      simpa [squeeze, endsBlank, isBlank] using ih ofRest

end Lexeme

/-- What is left of a text, with the blank space outside of literals made as short as possible. -/
def code (text : List Char) : List Lexeme :=
  Lexeme.squeeze true (lexemes text)

/-! ## Pieces that are read by themselves -/

/-- A character that begins no literal and no comment. -/
def isPlain (c : Char) : Bool :=
  !isQuote c && c != '/'

/-- Wherever the piece stands outside of literals and comments, this much is left of it. -/
def Reads (text : List Char) (left : List Lexeme) : Prop :=
  ∀ rest, read .code (text ++ rest) = left ++ read .code rest

/-- All of the piece is left, wherever it stands outside of literals and comments. -/
def IsLegible (text : List Char) : Prop :=
  ∃ left, Reads text left ∧ left.map Lexeme.char = text

theorem Reads.append {first second : List Char} {left left' : List Lexeme}
    (reads : Reads first left) (reads' : Reads second left') :
    Reads (first ++ second) (left ++ left') := by
  intro rest
  rw [List.append_assoc, reads, reads', List.append_assoc]

theorem IsLegible.append {first second : List Char} (isLegible : IsLegible first)
    (isLegible' : IsLegible second) : IsLegible (first ++ second) := by
  rcases isLegible with ⟨left, reads, same⟩
  rcases isLegible' with ⟨left', reads', same'⟩
  exact ⟨left ++ left', reads.append reads', by rw [List.map_append, same, same']⟩

theorem read_code_of_isPlain {c : Char} (plain : isPlain c = true) (rest : List Char) :
    read .code (c :: rest) = ⟨c, false⟩ :: read .code rest := by
  simp only [isPlain, Bool.and_eq_true, Bool.not_eq_true', bne_iff_ne, ne_eq] at plain
  simp [read, plain.1, plain.2]

theorem reads_of_plain {text : List Char} (plain : ∀ c ∈ text, isPlain c = true) :
    Reads text (text.map (⟨·, false⟩)) := by
  intro rest
  induction text with
  | nil => rfl
  | cons c text ih =>
      rcases List.forall_mem_cons.mp plain with ⟨ofFirst, ofOthers⟩
      rw [List.cons_append, read_code_of_isPlain ofFirst, ih ofOthers]
      rfl

theorem isLegible_of_reads {text : List Char} {quoted : Bool}
    (reads : Reads text (text.map (⟨·, quoted⟩))) : IsLegible text :=
  ⟨text.map (⟨·, quoted⟩), reads, by simp [Function.comp_def]⟩

/-- A text without quotes and slashes is legible. -/
theorem isLegible_of_plain {text : List Char} (plain : ∀ c ∈ text, isPlain c = true) :
    IsLegible text :=
  isLegible_of_reads (reads_of_plain plain)

/-- A fixed text without quotes and slashes is legible. -/
theorem isLegible_fixed {text : List Char} (plain : text.all isPlain = true) : IsLegible text :=
  isLegible_of_plain (List.all_eq_true.mp plain)

/-! ## Literals -/

namespace Quoted

theorem read_literal_cons {quote c : Char} (notEscape : c ≠ '\\') (rest : List Char) :
    read (.literal quote) (c :: rest) =
      ⟨c, true⟩ :: read (if c = quote then .code else .literal quote) rest := by
  simp [read, notEscape]

/-- What is neither a quote nor a backslash stays in a literal. -/
theorem read_literal_append {quote : Char} {text : List Char}
    (inside : ∀ c ∈ text, c ≠ '\\' ∧ c ≠ quote) (rest : List Char) :
    read (.literal quote) (text ++ rest) =
      text.map (⟨·, true⟩) ++ read (.literal quote) rest := by
  induction text with
  | nil => rfl
  | cons c text ih =>
      rcases List.forall_mem_cons.mp inside with ⟨⟨notEscape, notQuote⟩, ofOthers⟩
      rw [List.cons_append, read_literal_cons notEscape, if_neg notQuote, ih ofOthers]
      rfl

theorem isAlphanum_of_mem_toDigits {n : Nat} {c : Char} (member : c ∈ Nat.toDigits 16 n) :
    c.isAlphanum = true := by
  induction n using Nat.strongRecOn with
  | ind n ih =>
      have digit : ∀ d < 16, (Nat.digitChar d).isAlphanum = true := by decide
      rw [Nat.toDigits_eq_if (by decide)] at member
      split at member
      · next small =>
          rw [List.mem_singleton.mp member]
          exact digit n small
      · next large =>
          rcases List.mem_append.mp member with inFirst | isLast
          · exact ih (n / 16) (by omega) inFirst
          · rw [List.mem_singleton.mp isLast]
            exact digit (n % 16) (by omega)

theorem not_isAlphanum_of_isQuote {quote : Char} (quotes : isQuote quote = true) :
    quote.isAlphanum = false ∧ quote ≠ '\x7b' ∧ quote ≠ '\x7d' := by
  simp only [isQuote, Bool.or_eq_true, beq_iff_eq] at quotes
  rcases quotes with rfl | rfl <;> decide

/-- A code point is read as a whole within a literal. -/
theorem read_literal_codePoint {quote : Char} (quotes : isQuote quote = true) (c : Char)
    (rest : List Char) :
    read (.literal quote) (codePoint c ++ rest) =
      (codePoint c).map (⟨·, true⟩) ++ read (.literal quote) rest := by
  rcases not_isAlphanum_of_isQuote quotes with ⟨notDigit, notOpening, notClosing⟩
  have inside : ∀ d ∈ '\x7b' :: (Nat.toDigits 16 c.toNat ++ ['\x7d']), d ≠ '\\' ∧ d ≠ quote := by
    simp only [List.forall_mem_cons, List.forall_mem_append]
    refine ⟨⟨by decide, Ne.symm notOpening⟩, fun d member => ?_,
      ⟨by decide, Ne.symm notClosing⟩, by simp⟩
    have digit := isAlphanum_of_mem_toDigits member
    refine ⟨?_, ?_⟩
    · rintro rfl
      exact absurd digit (by decide)
    · rintro rfl
      exact absurd digit (by simp [notDigit])
  have start (text : List Char) :
      read (.literal quote) ('\\' :: 'u' :: text) =
        ⟨'\\', true⟩ :: ⟨'u', true⟩ :: read (.literal quote) text :=
    rfl
  have others := read_literal_append inside rest
  simp only [codePoint, List.cons_append, List.append_assoc, List.nil_append, start] at others ⊢
  rw [others]
  simp

/-- An escaped character does not end the literal. -/
theorem read_literal_escape {quote : Char} (quotes : isQuote quote = true) (c : Char)
    (rest : List Char) :
    read (.literal quote) (escape quote c ++ rest) =
      (escape quote c).map (⟨·, true⟩) ++ read (.literal quote) rest := by
  unfold escape
  repeat' split
  all_goals try rfl
  · exact read_literal_codePoint quotes c rest
  · next neither _ =>
      rw [not_or] at neither
      exact read_literal_append (by simpa using neither) rest

/-- Characters between quotes are read as one literal. -/
theorem reads_quoted {quote : Char} (quotes : isQuote quote = true) (text : List Char) :
    Reads (quote :: text.flatMap (escape quote) ++ [quote])
      ((quote :: text.flatMap (escape quote) ++ [quote]).map (⟨·, true⟩)) := by
  intro rest
  have opening (after : List Char) :
      read .code (quote :: after) = ⟨quote, true⟩ :: read (.literal quote) after := by
    have notSlash : quote ≠ '/' := by
      rintro rfl
      exact absurd quotes (by decide)
    simp [read, quotes, notSlash]
  have closing : read (.literal quote) (quote :: rest) = ⟨quote, true⟩ :: read .code rest := by
    have notEscape : quote ≠ '\\' := by
      rintro rfl
      exact absurd quotes (by decide)
    rw [read_literal_cons notEscape, if_pos rfl]
  have inner : read (.literal quote) (text.flatMap (escape quote) ++ quote :: rest) =
      (text.flatMap (escape quote)).map (⟨·, true⟩) ++
        read (.literal quote) (quote :: rest) := by
    generalize quote :: rest = after
    induction text with
    | nil => rfl
    | cons c text ih =>
        rw [List.flatMap_cons, List.append_assoc, read_literal_escape quotes, ih, List.map_append,
          List.append_assoc]
  simp only [List.cons_append, List.append_assoc, List.nil_append, opening, inner, closing]
  simp

theorem isLegible_quoted {quote : Char} (quotes : isQuote quote = true) (text : List Char) :
    IsLegible (quote :: text.flatMap (escape quote) ++ [quote]) :=
  isLegible_of_reads (reads_quoted quotes text)

theorem isLegible_string (text : List Char) : IsLegible (string text) :=
  isLegible_quoted (by decide) text

theorem isLegible_char (c : Char) : IsLegible (char c) := by
  have alone : char c = singleQuote :: [c].flatMap (escape singleQuote) ++ [singleQuote] := by
    simp [char]
  rw [alone]
  exact isLegible_quoted (by decide) [c]

end Quoted

/-! ## Comments -/

/-- A comment that begins with two slashes ends with the line. -/
theorem read_lineComment {text : List Char} (oneLine : '\n' ∉ text) (rest : List Char) :
    read .lineComment (text ++ '\n' :: rest) = ⟨'\n', false⟩ :: read .code rest := by
  induction text with
  | nil => rfl
  | cons c text ih =>
      rcases List.ne_and_not_mem_of_not_mem_cons oneLine with ⟨other, ofRest⟩
      rw [← ih ofRest, List.cons_append]
      simp [read, Ne.symm other]

theorem read_blockComment_cons {c next : Char} (stays : c = '*' → next ≠ '/') (rest : List Char) :
    read .blockComment (c :: next :: rest) = read .blockComment (next :: rest) := by
  by_cases star : c = '*'
  · simp [read, star, stays star]
  · simp [read, star]

/-- A comment that begins with a slash and a star ends with the first star and slash. -/
theorem read_blockComment {text : List Char} (notClosed : occursIn ['*', '/'] text = false)
    (rest : List Char) :
    read .blockComment (text ++ " */".toList ++ rest) = read .code rest := by
  induction text with
  | nil => rfl
  | cons c text ih =>
      rw [occursIn, Bool.or_eq_false_iff] at notClosed
      have later := ih notClosed.2
      cases text with
      | nil =>
          rw [← later]
          exact read_blockComment_cons (fun _ => by decide) ('*' :: '/' :: rest)
      | cons next text =>
          have stays : c = '*' → next ≠ '/' := by
            rintro rfl rfl
            simp [List.isPrefixOf] at notClosed
          rw [← later]
          exact read_blockComment_cons stays (text ++ " */".toList ++ rest)

/-! ## Texts with and without comments -/

/--
The first text is the second one with comments: after blank space, the same is left
of both but for blank space, and all of the second is left.
-/
structure Alike (commented bare : List Char) (left left' : List Lexeme) : Prop where
  reads : Reads commented left
  readsBare : Reads bare left'
  complete : left'.map Lexeme.char = bare
  squeeze_eq : Lexeme.squeeze true left = Lexeme.squeeze true left'
  endsBlank_eq : Lexeme.endsBlank true left = Lexeme.endsBlank true left'

/-- The first text is the second one with comments. -/
def Matches (commented bare : List Char) : Prop :=
  ∃ left left', Alike commented bare left left'

/-- The first text is the second one with comments, and what follows comes after blank space. -/
def MatchesToBlank (commented bare : List Char) : Prop :=
  ∃ left left', Alike commented bare left left' ∧ Lexeme.endsBlank true left' = true

variable {commented bare commented' bare' text : List Char}

theorem Alike.append {left left' more more' : List Lexeme}
    (alike : Alike commented bare left left') (others : Alike commented' bare' more more')
    (blank : Lexeme.endsBlank true left' = true) :
    Alike (commented ++ commented') (bare ++ bare') (left ++ more) (left' ++ more') where
  reads := alike.reads.append others.reads
  readsBare := alike.readsBare.append others.readsBare
  complete := by rw [List.map_append, alike.complete, others.complete]
  squeeze_eq := by
    rw [Lexeme.squeeze_append, Lexeme.squeeze_append, alike.squeeze_eq, alike.endsBlank_eq, blank,
      others.squeeze_eq]
  endsBlank_eq := by
    rw [Lexeme.endsBlank_append, Lexeme.endsBlank_append, alike.endsBlank_eq, blank,
      others.endsBlank_eq]

theorem MatchesToBlank.append (first : MatchesToBlank commented bare)
    (second : Matches commented' bare') : Matches (commented ++ commented') (bare ++ bare') := by
  rcases first with ⟨left, left', alike, blank⟩
  rcases second with ⟨more, more', others⟩
  exact ⟨left ++ more, left' ++ more', alike.append others blank⟩

theorem MatchesToBlank.trans (first : MatchesToBlank commented bare)
    (second : MatchesToBlank commented' bare') :
    MatchesToBlank (commented ++ commented') (bare ++ bare') := by
  rcases first with ⟨left, left', alike, blank⟩
  rcases second with ⟨more, more', others, blank'⟩
  refine ⟨left ++ more, left' ++ more', alike.append others blank, ?_⟩
  rw [Lexeme.endsBlank_append, blank, blank']

/-- What follows is the same, so the comments before it do not matter. -/
theorem Alike.append_reads {left left' more : List Lexeme}
    (alike : Alike commented bare left left') (reads : Reads text more)
    (complete : more.map Lexeme.char = text) :
    Alike (commented ++ text) (bare ++ text) (left ++ more) (left' ++ more) where
  reads := alike.reads.append reads
  readsBare := alike.readsBare.append reads
  complete := by rw [List.map_append, alike.complete, complete]
  squeeze_eq := by
    rw [Lexeme.squeeze_append, Lexeme.squeeze_append, alike.squeeze_eq, alike.endsBlank_eq]
  endsBlank_eq := by rw [Lexeme.endsBlank_append, Lexeme.endsBlank_append, alike.endsBlank_eq]

theorem Matches.append_legible (first : Matches commented bare) (legible : IsLegible text) :
    Matches (commented ++ text) (bare ++ text) := by
  rcases first with ⟨left, left', alike⟩
  rcases legible with ⟨more, reads, complete⟩
  exact ⟨left ++ more, left' ++ more, alike.append_reads reads complete⟩

theorem Matches.append_blank (first : Matches commented bare) {c : Char}
    (blank : c = ' ' ∨ c = '\n') : MatchesToBlank (commented ++ [c]) (bare ++ [c]) := by
  rcases first with ⟨left, left', alike⟩
  have plain : isPlain c = true := by
    rcases blank with rfl | rfl <;> decide
  have reads := reads_of_plain (List.forall_mem_singleton.mpr plain)
  refine ⟨_, _, alike.append_reads reads rfl, ?_⟩
  rw [Lexeme.endsBlank_append]
  rcases blank with rfl | rfl <;> rfl

theorem MatchesToBlank.matches (first : MatchesToBlank commented bare) :
    Matches commented bare := by
  rcases first with ⟨left, left', alike, _⟩
  exact ⟨left, left', alike⟩

theorem matches_nil : Matches [] [] :=
  ⟨[], [], fun _ => rfl, fun _ => rfl, rfl, rfl, rfl⟩

theorem IsLegible.matches (legible : IsLegible text) : Matches text text :=
  matches_nil.append_legible legible

/-- What is read as blank space can be put in after blank space. -/
theorem matchesToBlank_of_reads {blanks : List Lexeme} (reads : Reads text blanks)
    (areBlank : ∀ lexeme ∈ blanks, lexeme.isBlank = true) : MatchesToBlank text [] := by
  rcases Lexeme.squeeze_blank areBlank with ⟨nothing, blank⟩
  exact ⟨blanks, [], ⟨reads, fun _ => rfl, rfl, nothing, blank⟩, rfl⟩

theorem matchesToBlank_nil : MatchesToBlank [] [] := by
  have reads : Reads [] [] := fun _ => rfl
  exact matchesToBlank_of_reads reads (by simp)

theorem reads_spaces (width : Nat) :
    Reads (List.replicate width ' ') (List.replicate width Lexeme.space) := by
  have plain : ∀ c ∈ List.replicate width ' ', isPlain c = true := by
    intro c member
    rw [List.eq_of_mem_replicate member]
    rfl
  simpa [Lexeme.space] using reads_of_plain plain

theorem isBlank_spaces (width : Nat) :
    ∀ lexeme ∈ List.replicate width Lexeme.space, lexeme.isBlank = true := by
  intro lexeme member
  rw [List.eq_of_mem_replicate member]
  rfl

theorem matchesToBlank_spaces (width : Nat) :
    MatchesToBlank (List.replicate width ' ') (List.replicate width ' ') := by
  have reads := reads_spaces width
  have blank := (Lexeme.squeeze_blank (isBlank_spaces width)).2
  exact ⟨_, _, ⟨reads, reads, by simp [Lexeme.space], rfl, rfl⟩, blank⟩

/-- The same code is left of a text with and without comments, and all that is written without. -/
theorem Matches.code_eq (first : Matches commented bare) :
    code commented = code bare ∧ (lexemes bare).map Lexeme.char = bare := by
  rcases first with ⟨left, left', alike⟩
  have whole : lexemes commented = left := by
    have atEnd := alike.reads []
    rwa [List.append_nil, read, List.append_nil] at atEnd
  have wholeBare : lexemes bare = left' := by
    have atEnd := alike.readsBare []
    rwa [List.append_nil, read, List.append_nil] at atEnd
  rw [code, code, whole, wholeBare]
  exact ⟨alike.squeeze_eq, alike.complete⟩

end Text

end Whittle
