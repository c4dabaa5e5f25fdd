import Whittle.Pattern.CharSet

/-!
# Patterns

A pattern describes pieces of a text.  A piece is found by reading the text
once: at each place stands the list of patterns that the rest of the text may
still have to begin with, and every character is taken off all of them.
Conditions on a place look at the characters on its two sides.
-/

namespace Whittle

namespace Pattern

/-- A place in a text, seen from the characters before and after it. -/
structure Place where
  before : Option Char
  after : Option Char
deriving Repr, DecidableEq

/-- A condition on a place. -/
inductive Condition where
  | textStart
  | textEnd
  | lineStart
  | lineEnd
  /-- Lines may end with a carriage return, a newline, or both. -/
  | lineStartCrlf
  | lineEndCrlf
  | wordBoundary (ascii : Bool)
  | notWordBoundary (ascii : Bool)
  | wordStart (ascii : Bool)
  | wordEnd (ascii : Bool)
  | wordStartHalf (ascii : Bool)
  | wordEndHalf (ascii : Bool)
deriving Repr, DecidableEq

namespace Condition

/-- Whether there is a word character on one side. -/
def isWord (ascii : Bool) : Option Char → Bool
  | none => false
  | some c => if ascii then c.isAlphanum || c == '_' else Unicode.isWord c

/-- Whether the condition holds at a place. -/
def holds (place : Place) : Condition → Bool
  | .textStart => place.before.isNone
  | .textEnd => place.after.isNone
  | .lineStart => place.before.isNone || place.before == some '\n'
  | .lineEnd => place.after.isNone || place.after == some '\n'
  | .lineStartCrlf =>
      place.before.isNone || place.before == some '\n' ||
        (place.before == some '\r' && place.after != some '\n')
  | .lineEndCrlf =>
      place.after.isNone || place.after == some '\r' ||
        (place.after == some '\n' && place.before != some '\r')
  | .wordBoundary ascii => isWord ascii place.before != isWord ascii place.after
  | .notWordBoundary ascii => isWord ascii place.before == isWord ascii place.after
  | .wordStart ascii => !isWord ascii place.before && isWord ascii place.after
  | .wordEnd ascii => isWord ascii place.before && !isWord ascii place.after
  | .wordStartHalf ascii => !isWord ascii place.before
  | .wordEndHalf ascii => !isWord ascii place.after

end Condition

end Pattern

/-- A pattern. -/
inductive Pattern where
  /-- The empty piece. -/
  | empty
  /-- One character of a set. -/
  | set (chars : Pattern.CharSet)
  /-- The empty piece at a place where a condition holds. -/
  | at (condition : Pattern.Condition)
  | seq (first second : Pattern)
  | alt (left right : Pattern)
  /-- As many copies in a row as the bounds allow. -/
  | rep (copy : Pattern) (least : Nat) (most : Option Nat)
deriving Repr, DecidableEq

namespace Pattern

/-- One pattern after the other; nothing is put before a pattern for the empty piece. -/
def andThen : Pattern → Pattern → Pattern
  | .empty, second => second
  | first, second => .seq first second

def sequence : List Pattern → Pattern
  | [] => .empty
  | [pattern] => pattern
  | pattern :: rest => .seq pattern (sequence rest)

/-- Whether the pattern describes the empty piece at a place. -/
def nullable (place : Place) : Pattern → Bool
  | .empty => true
  | .set _ => false
  | .at condition => condition.holds place
  | .seq first second => nullable place first && nullable place second
  | .alt left right => nullable place left || nullable place right
  | .rep copy least _ => least == 0 || nullable place copy

/--
What may still have to follow once a character at a place has been taken off
the front.  Where a copy can be empty at this place, any number of the required
copies can be passed over.
-/
def rests (place : Place) (c : Char) : Pattern → List Pattern
  | .empty => []
  | .set chars => if chars.holdsChar c then [.empty] else []
  | .at _ => []
  | .seq first second =>
      (rests place c first).map (·.andThen second) ++
        if nullable place first then rests place c second else []
  | .alt left right => rests place c left ++ rests place c right
  | .rep copy least most =>
      if most = some 0 then []
      else
        let fewer := if nullable place copy then 0 else least - 1
        (rests place c copy).map (·.andThen (.rep copy fewer (most.map (· - 1))))

/-- Whether one of the patterns, or a piece described by `pattern`, begins in the rest of a text. -/
def searchFrom (pattern : Pattern) (before : Option Char) (started : List Pattern) :
    List Char → Bool
  | [] => (pattern :: started).any (nullable ⟨before, none⟩)
  | c :: rest =>
      let place : Place := ⟨before, some c⟩
      let candidates := pattern :: started
      candidates.any (nullable place) ||
        searchFrom pattern (some c) (candidates.flatMap (rests place c)).eraseDups rest

/-- Whether the text contains a piece that the pattern describes. -/
def isMatch (pattern : Pattern) (text : String) : Bool :=
  searchFrom pattern none [] text.toList

end Pattern

end Whittle
