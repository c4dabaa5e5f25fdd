import Whittle.Pattern.Flags

/-!
# Reading patterns

A pattern is read from left to right, with the groups and the bracketed
classes that are still open on a stack.  Each step takes at least one character
off the text, which is what ends the reading.  Whatever is malformed is refused;
so are conditions on neighbouring pieces and references to groups.
-/

namespace Whittle.Pattern

/-- A text that is left over. -/
abbrev Rest := List Char

/-! ## Escapes -/

/-- What a backslash and the characters after it stand for. -/
inductive Escape where
  | char (c : Char)
  | set (chars : CharSet)
  | at (condition : Condition)
deriving Repr

def hexDigit? (c : Char) : Option Nat :=
  if '0' ≤ c ∧ c ≤ '9' then some (c.toNat - 48)
  else if 'a' ≤ c ∧ c ≤ 'f' then some (c.toNat - 87)
  else if 'A' ≤ c ∧ c ≤ 'F' then some (c.toNat - 55)
  else none

/-- The character with a code given by hexadecimal digits. -/
def charOfHex? (digits : List Char) : Option Char := do
  let values ← digits.mapM hexDigit?
  let code := values.foldl (fun code value => code * 16 + value) 0
  if digits.isEmpty then none
  else if code.isValidChar then some (Char.ofNat code)
  else none

/-- The text up to a character, and what follows it. -/
def splitAtChar (stop : Char) (text : List Char) : Option (List Char × Rest) :=
  match text.dropWhile (· != stop) with
  | [] => none
  | _ :: rest => some (text.takeWhile (· != stop), rest)

/-- The character of a code: in braces, or with a fixed number of digits. -/
def codeEscape? (count : Nat) : List Char → Option (Escape × Rest)
  | '\x7b' :: rest => do
      let (digits, rest) ← splitAtChar '\x7d' rest
      return (.char (← charOfHex? digits), rest)
  | text =>
      if text.length < count then none
      else do return (.char (← charOfHex? (text.take count)), text.drop count)

/-- The class of a property: one letter, or a name in braces that a caret negates. -/
def propertyEscape? (negated : Bool) : List Char → Option (Escape × Rest)
  | [] => none
  | '\x7b' :: rest => do
      let (name, rest) ← splitAtChar '\x7d' rest
      let (flipped, name) :=
        match name with
        | '^' :: name => (true, name)
        | name => (false, name)
      let set ← CharSet.ofProperty? (String.ofList name)
      return (.set (if negated != flipped then .compl set else set), rest)
  | letter :: rest => do
      let set ← CharSet.ofProperty? (String.ofList [letter])
      return (.set (if negated then .compl set else set), rest)

/-- The kinds of word boundary that have a name in braces. -/
def boundaryNamed? (ascii : Bool) (name : List Char) : Option Condition :=
  match String.ofList name with
  | "start" => some (.wordStart ascii)
  | "end" => some (.wordEnd ascii)
  | "start-half" => some (.wordStartHalf ascii)
  | "end-half" => some (.wordEndHalf ascii)
  | _ => none

/-- A word boundary, with or without a name; braces with anything else begin a count. -/
def boundaryEscape? (ascii : Bool) (text : List Char) : Option (Escape × Rest) :=
  let plain : Escape × Rest := (.at (.wordBoundary ascii), text)
  match text with
  | '\x7b' :: inside =>
      match inside with
      | first :: _ =>
          if first.isAlpha || first == '-' then do
            let (name, rest) ← splitAtChar '\x7d' inside
            return (.at (← boundaryNamed? ascii name), rest)
          else some plain
      | [] => none
  | _ => some plain

/-- The characters that mean something in a pattern. -/
def isMeta (c : Char) : Bool :=
  c ∈ ['\\', '.', '+', '*', '?', '(', ')', '|', '[', ']', '\x7b', '\x7d', '^', '$', '#', '&',
    '-', '~']

/-- The characters that a backslash may stand before without changing them. -/
def isEscapable (c : Char) : Bool :=
  isMeta c || (c.toNat < 0x80 && !c.isAlphanum && c != '<' && c != '>')

def escape? (flags : Flags) : List Char → Option (Escape × Rest)
  | [] => none
  | c :: rest =>
      let ascii := !flags.wide
      match c with
      | 'x' => codeEscape? 2 rest
      | 'u' => codeEscape? 4 rest
      | 'U' => codeEscape? 8 rest
      | 'p' => propertyEscape? false rest
      | 'P' => propertyEscape? true rest
      | 'a' => some (.char '\x07', rest)
      | 'f' => some (.char '\x0c', rest)
      | 't' => some (.char '\t', rest)
      | 'n' => some (.char '\n', rest)
      | 'r' => some (.char '\r', rest)
      | 'v' => some (.char '\x0b', rest)
      | 'A' => some (.at .textStart, rest)
      | 'z' => some (.at .textEnd, rest)
      | 'b' => boundaryEscape? ascii rest
      | 'B' => if ascii then none else some (.at (.notWordBoundary ascii), rest)
      | '<' => some (.at (.wordStart ascii), rest)
      | '>' => some (.at (.wordEnd ascii), rest)
      | c =>
          if "dswDSW".toList.contains c then
            (CharSet.ofLetter? flags c).map fun set => (.set set, rest)
          else if isEscapable c then some (.char c, rest)
          else none

/-! ## Bracketed classes -/

/-- An operation on two sets. -/
inductive SetOp where
  | inter
  | diff
  | symmDiff
deriving Repr, DecidableEq

def SetOp.apply : SetOp → CharSet → CharSet → CharSet
  | .inter => .inter
  | .diff => .diff
  | .symmDiff => .symmDiff

/--
A bracketed class that is open: the operation that waits for its right side, and
the union so far.
-/
structure OpenClass where
  negated : Bool
  pending : Option (CharSet × SetOp)
  union : CharSet
deriving Repr

namespace OpenClass

/-- The class with one more set in the union. -/
def add (opened : OpenClass) (set : CharSet) : OpenClass :=
  { opened with union := .union opened.union set }

def value (flags : Flags) (opened : OpenClass) : CharSet :=
  match opened.pending with
  | none => flags.close opened.union
  | some (left, op) => op.apply left (flags.close opened.union)

/-- Let an operation wait for its right side. -/
def operate (flags : Flags) (opened : OpenClass) (op : SetOp) : OpenClass :=
  ⟨opened.negated, some (opened.value flags, op), .empty⟩

/-- The whole set; the complement is only known for wide classes. -/
def close? (flags : Flags) (opened : OpenClass) : Option CharSet :=
  let set := opened.value flags
  if opened.negated then (if flags.wide then some (.compl set) else none) else some set

/-- Leading hyphens, and a bracket that closes nothing yet, stand for themselves. -/
def leading (union : CharSet) (first : Bool) : List Char → CharSet × Rest
  | '-' :: rest => leading (.union union (.single '-')) false rest
  | ']' :: rest => if first then (.union union (.single ']'), rest) else (union, ']' :: rest)
  | rest => (union, rest)

/-- Read the start of a class, after its bracket. -/
def begin : List Char → OpenClass × Rest
  | '^' :: rest =>
      let (union, rest) := leading .empty true rest
      (⟨true, none, union⟩, rest)
  | rest =>
      let (union, rest) := leading .empty true rest
      (⟨false, none, union⟩, rest)

end OpenClass

/-- A named class inside brackets: a colon, an optional caret, a name, a colon and a bracket. -/
def bracketName? : List Char → Option (CharSet × Rest)
  | ':' :: rest => do
      let (negated, rest) :=
        match rest with
        | '^' :: rest => (true, rest)
        | rest => (false, rest)
      let (name, rest) ← splitAtChar ':' rest
      let set ← CharSet.ofBracketName? (String.ofList name)
      match rest with
      | ']' :: rest => return (if negated then .compl set else set, rest)
      | _ => none
  | _ => none

/-- One item of a class: a character, or a set. -/
def classItem? (flags : Flags) : List Char → Option (Escape × Rest)
  | [] => none
  | '\\' :: rest => do
      match ← escape? flags rest with
      | (.at _, _) => none
      | item => return item
  | c :: rest => some (.char c, rest)

/-- One item or a range of two. -/
def classRange? (flags : Flags) (text : List Char) : Option (CharSet × Rest) := do
  let (first, rest) ← classItem? flags text
  let alone : CharSet :=
    match first with
    | .char c => .single c
    | .set chars => chars
    | .at _ => .empty
  match rest with
  | [] => none
  | '-' :: ']' :: _ => return (alone, rest)
  | '-' :: '-' :: _ => return (alone, rest)
  | '-' :: rest =>
      let (last, rest) ← classItem? flags rest
      match first, last with
      | .char low, .char high =>
          if low ≤ high then return (.range low.toNat high.toNat, rest) else none
      | _, _ => none
  | rest => return (alone, rest)

/-- Read the inside of bracketed classes, the innermost one first, to the end of the outermost. -/
def classBody? (flags : Flags) : Nat → List OpenClass → List Char → Option (CharSet × Rest)
  | 0, _, _ => none
  | _, [], _ => none
  | fuel + 1, inner :: outer, text =>
      match text with
      | [] => none
      | ']' :: rest => do
          let chars ← inner.close? flags
          match outer with
          | [] => return (chars, rest)
          | next :: outer => classBody? flags fuel (next.add chars :: outer) rest
      | '[' :: rest =>
          match bracketName? rest with
          | some (chars, rest) => classBody? flags fuel (inner.add chars :: outer) rest
          | none =>
              let (opened, rest) := OpenClass.begin rest
              classBody? flags fuel (opened :: inner :: outer) rest
      | '&' :: '&' :: rest => classBody? flags fuel (inner.operate flags .inter :: outer) rest
      | '-' :: '-' :: rest => classBody? flags fuel (inner.operate flags .diff :: outer) rest
      | '~' :: '~' :: rest => classBody? flags fuel (inner.operate flags .symmDiff :: outer) rest
      | text => do
          let (chars, rest) ← classRange? flags text
          classBody? flags fuel (inner.add chars :: outer) rest

/-- Read a class, after its opening bracket. -/
def class? (flags : Flags) (text : List Char) : Option (CharSet × Rest) :=
  let (opened, rest) := OpenClass.begin text
  classBody? flags (text.length + 1) [opened] rest

/-! ## Repetitions -/

/-- The greatest count that can be written. -/
def greatestCount : Nat := UInt32.size - 1

/-- Read a count, with spaces around it. -/
def count? (text : List Char) : Option (Option Nat × Rest) :=
  let text := text.dropWhile Unicode.isBlank
  let digits := text.takeWhile Char.isDigit
  let rest := (text.dropWhile Char.isDigit).dropWhile Unicode.isBlank
  if digits.isEmpty then some (none, rest)
  else
    let value := digits.foldl (fun value digit => value * 10 + (digit.toNat - 48)) 0
    if value ≤ greatestCount then some (some value, rest) else none

/-- Read the bounds of a repetition, after its opening brace. -/
def bounds? (text : List Char) : Option ((Nat × Option Nat) × Rest) := do
  let (least, rest) ← count? text
  let least ← least
  match rest with
  | '\x7d' :: rest => return ((least, some least), rest)
  | ',' :: '\x7d' :: rest => return ((least, none), rest)
  | ',' :: rest =>
      let (most, rest) ← count? rest
      let most ← most
      match rest with
      | '\x7d' :: rest => if least ≤ most then return ((least, some most), rest) else none
      | _ => none
  | _ => none

/-! ## Groups -/

/-- Whether a character can stand in the name of a group. -/
def isNameChar (first : Bool) (c : Char) : Bool :=
  if first then c == '_' || (Unicode.isWord c && !Unicode.isDigit c)
  else c == '_' || c == '.' || c == '[' || c == ']' || Unicode.isWord c

/-- Read the name of a group up to the bracket that ends it. -/
def groupName? (text : List Char) : Option (List Char × Rest) := do
  let (name, rest) ← splitAtChar '>' text
  match name with
  | [] => none
  | first :: others =>
      if isNameChar true first && others.all (isNameChar false) then some (name, rest) else none

/-- What a run of flag letters does: the flags after it, and the letters seen. -/
structure FlagRun where
  flags : Flags
  seen : List Char
  negated : Bool
  /-- Whether the last character was the hyphen. -/
  dangling : Bool
deriving Repr

/-- Read flag letters up to the character that ends them, a colon or a parenthesis. -/
def flagRun? (run : FlagRun) : List Char → Option (Flags × Char × Rest)
  | [] => none
  | c :: rest =>
      if c = ':' ∨ c = ')' then
        if run.dangling then none
        else if c = ')' && run.seen.isEmpty then none
        else some (run.flags, c, rest)
      else if c = '-' then
        if run.negated then none
        else flagRun? { run with negated := true, dangling := true } rest
      else if run.seen.contains c then none
      else do
        let flags ← run.flags.set? c (!run.negated)
        flagRun? ⟨flags, c :: run.seen, run.negated, false⟩ rest

/-- What stands after an opening parenthesis. -/
inductive Opening where
  /-- A group, with the flags inside it and its name. -/
  | group (flags : Flags) (name : Option (List Char))
  /-- Flags for what follows in the group around. -/
  | flags (flags : Flags)
deriving Repr

/-- Read what stands after an opening parenthesis. -/
def opening? (flags : Flags) : List Char → Option (Opening × Rest)
  | '?' :: rest =>
      match rest with
      | '=' :: _ | '!' :: _ | '<' :: '=' :: _ | '<' :: '!' :: _ => none
      | 'P' :: '<' :: rest | '<' :: rest => do
          let (name, rest) ← groupName? rest
          return (.group flags (some name), rest)
      | rest => do
          match ← flagRun? ⟨flags, [], false, false⟩ rest with
          | (inside, ':', rest) => return (.group inside none, rest)
          | (after, _, rest) => return (.flags after, rest)
  | rest => some (.group flags none, rest)

/-! ## Patterns -/

/-- One group that is open, or the whole pattern. -/
structure OpenGroup where
  /-- The alternatives before the current one. -/
  finished : Option Pattern
  /-- The current alternative, latest item first; flags are items that cannot be repeated. -/
  items : List (Option Pattern)
  /-- The flags at this place. -/
  flags : Flags

namespace OpenGroup

def begin (flags : Flags) : OpenGroup := ⟨none, [], flags⟩

def push (group : OpenGroup) (item : Pattern) : OpenGroup :=
  { group with items := some item :: group.items }

def current (group : OpenGroup) : Pattern :=
  Pattern.sequence (group.items.reverse.filterMap id)

def whole (group : OpenGroup) : Pattern :=
  match group.finished with
  | none => group.current
  | some earlier => .alt earlier group.current

def alternate (group : OpenGroup) : OpenGroup :=
  ⟨some group.whole, [], group.flags⟩

def repeat? (group : OpenGroup) (least : Nat) (most : Option Nat) : Option OpenGroup :=
  match group.items with
  | some copy :: items => some { group with items := some (.rep copy least most) :: items }
  | _ => none

end OpenGroup

/-- A reading in progress: the open groups, innermost first, and the names given so far. -/
structure Reading where
  inner : OpenGroup
  outer : List OpenGroup
  names : List (List Char)

namespace Reading

/-- The reading with another innermost group. -/
def withInner (reading : Reading) (inner : OpenGroup) : Reading :=
  { reading with inner }

def push (reading : Reading) (item : Pattern) : Reading :=
  reading.withInner (reading.inner.push item)

/-- Repeat the last item; a question mark after a repetition changes its preference only. -/
def repeat? (reading : Reading) (least : Nat) (most : Option Nat) (rest : Rest) :
    Option (Reading × Rest) := do
  let inner ← reading.inner.repeat? least most
  let rest :=
    match rest with
    | '?' :: rest => rest
    | rest => rest
  return (reading.withInner inner, rest)

/-- Open a group, or change the flags. -/
def open? (reading : Reading) (text : List Char) : Option (Reading × Rest) := do
  match ← opening? reading.inner.flags text with
  | (.flags flags, rest) =>
      let inner := { reading.inner with items := none :: reading.inner.items, flags }
      return (reading.withInner inner, rest)
  | (.group flags none, rest) =>
      return ({ reading with
        inner := .begin flags
        outer := reading.inner :: reading.outer }, rest)
  | (.group flags (some name), rest) =>
      if reading.names.contains name then none
      else
        return (⟨.begin flags, reading.inner :: reading.outer, name :: reading.names⟩, rest)

def close? (reading : Reading) : Option Reading :=
  match reading.outer with
  | [] => none
  | next :: outer => some { reading with inner := next.push reading.inner.whole, outer }

def escaped? (reading : Reading) (text : List Char) : Option (Reading × Rest) := do
  let flags := reading.inner.flags
  match ← escape? flags text with
  | (.char c, rest) => return (reading.push (flags.literal c), rest)
  | (.set chars, rest) => return (reading.push (.set (flags.close chars)), rest)
  | (.at condition, rest) => return (reading.push (.at condition), rest)

/-- Read one item, given its first character. -/
def step? (reading : Reading) (c : Char) (rest : Rest) : Option (Reading × Rest) :=
  let flags := reading.inner.flags
  if flags.spaced && Unicode.isBlank c then some (reading, rest)
  else if flags.spaced && c == '#' then some (reading, rest.dropWhile (· != '\n'))
  else
    match c with
    | '(' => reading.open? rest
    | ')' => reading.close?.map (·, rest)
    | '|' => some (reading.withInner reading.inner.alternate, rest)
    | '[' => do
        let (chars, rest) ← class? flags rest
        return (reading.push (.set chars), rest)
    | '*' => reading.repeat? 0 none rest
    | '+' => reading.repeat? 1 none rest
    | '?' => reading.repeat? 0 (some 1) rest
    | '\x7b' => do
        let ((least, most), rest) ← bounds? rest
        reading.repeat? least most rest
    | '.' => (flags.dot?).map fun dot => (reading.push dot, rest)
    | '^' => some (reading.push (.at flags.start), rest)
    | '$' => some (reading.push (.at flags.finish), rest)
    | '\\' => reading.escaped? rest
    | c => some (reading.push (flags.literal c), rest)

/-- Read to the end of the text.  A step that gives back more than it got is no step. -/
def run? (reading : Reading) : List Char → Option Pattern
  | [] => if reading.outer.isEmpty then some reading.inner.whole else none
  | c :: rest =>
      match reading.step? c rest with
      | none => none
      | some (next, later) =>
          if _shorter : later.length ≤ rest.length then next.run? later else none
termination_by text => text.length
decreasing_by simp only [List.length_cons]; omega

end Reading

/-- The pattern that a text describes, if it describes one. -/
def ofText? (text : String) : Option Pattern :=
  Reading.run? ⟨.begin .standard, [], []⟩ text.toList

end Whittle.Pattern
