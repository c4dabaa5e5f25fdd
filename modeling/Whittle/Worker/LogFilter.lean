import Whittle.Decimal.Digits
import Whittle.Pattern.Reader
import Whittle.Unicode.Word

/-!
# Log filters

A filter is a list of directives.  A directive has a level, a target, a span
with fields in brackets, or several of these:

    warn    tool=debug    tool[span{field=value}]=info

Here only the question is answered whether a text is a filter.
-/

namespace Whittle.LogFilter

/-- The names of the levels, the quietest first. -/
def levelNames : List String := ["off", "error", "warn", "info", "debug", "trace"]

/-- Whether a text is a level: a name in either case, a number from 0 to 5, or nothing. -/
def isLevel (text : List Char) : Bool :=
  let text := String.ofList text
  text.isEmpty || (Decimal.natWithin? 0 5 text).isSome ||
    levelNames.contains (text.map Char.toLower)

/-- Whether the value of a field is a number or a pattern. -/
def isFieldValue (text : List Char) : Bool :=
  let text := String.ofList text
  (Decimal.natWithin? 0 (UInt64.size - 1) text).isSome || (Pattern.ofText? text).isSome

/-- Whether a text is a field: a name, or a name with a value. -/
def isField (text : List Char) : Bool :=
  !text.isEmpty &&
    match text.dropWhile (· != '=') with
    | [] => true
    | _ :: value => isFieldValue (value.takeWhile (· != '='))

/-- Where the reading of a directive is; each place knows where the current part began. -/
inductive Place where
  | start
  | levelOrTarget
  | span
  | field (start : Nat)
  | fields
  | target
  | level (start : Nat)
deriving Repr, DecidableEq

/-- A part of a text. -/
def slice (text : List Char) (start stop : Nat) : List Char :=
  (text.drop start).take (stop - start)

/-- Whether a directive may begin with the character. -/
def isFirst (c : Char) : Bool :=
  c == '-' || c == ':' || Unicode.isWord c

def step? (text : List Char) (place : Place) (c : Char) (index : Nat) : Option Place :=
  match place with
  | .start => if c = '[' then some .span else if isFirst c then some .levelOrTarget else none
  | .levelOrTarget =>
      if c = '=' then some (.level (index + 1))
      else if c = '[' then some .span
      else some .levelOrTarget
  | .span =>
      if c = ']' then some .target
      else if c = '\x7b' then some (.field (index + 1))
      else some .span
  | .field start =>
      if c = '\x7d' then if isField (slice text start index) then some .fields else none
      else some (.field start)
  | .fields => if c = ']' then some .target else none
  | .target => if c = '=' then some (.level (index + 1)) else none
  | .level start => some (.level start)

/-- Whether a directive may end at a place. -/
def canEnd (text : List Char) : Place → Bool
  | .levelOrTarget | .target => true
  | .level start => isLevel (text.drop start)
  | .start | .span | .field _ | .fields => false

/--
Whether a text is a directive.  Blanks around it are passed over, but places in
it are counted from its own beginning.
-/
def isDirective (text : List Char) : Bool :=
  let place := (Unicode.trimBlanks text).zipIdx.foldlM
    (fun place (c, index) => step? text place c index) Place.start
  place.any (canEnd text)

/-- The parts of a text between commas. -/
def splitAtCommas : List Char → List (List Char)
  | [] => [[]]
  | c :: rest =>
      match splitAtCommas rest with
      | [] => [[c]]
      | part :: parts => if c = ',' then [] :: part :: parts else (c :: part) :: parts

/-- Whether a text is a filter: nothing, or directives between commas. -/
def isValid (text : String) : Bool :=
  text.isEmpty || (splitAtCommas text.toList).all isDirective

end Whittle.LogFilter
