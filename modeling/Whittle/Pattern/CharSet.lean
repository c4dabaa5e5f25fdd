import Whittle.Unicode.CaseFold
import Whittle.Unicode.Word

/-!
# Sets of characters

The character classes of patterns, as expressions that say how a class was
written, and the membership test that gives them their meaning.
-/

namespace Whittle.Pattern

/-- A set of characters. -/
inductive CharSet where
  | empty
  /-- The code points between two bounds, both included. -/
  | range (first last : Nat)
  | word
  | digit
  | blank
  | union (left right : CharSet)
  | inter (left right : CharSet)
  | diff (left right : CharSet)
  | symmDiff (left right : CharSet)
  | compl (set : CharSet)
  /-- The characters that are the same as one of the set up to case. -/
  | folded (set : CharSet)
  /-- The same, where only ASCII letters have a case. -/
  | asciiFolded (set : CharSet)
deriving Repr, DecidableEq

namespace CharSet

def single (c : Char) : CharSet := .range c.toNat c.toNat

def unionOf (sets : List CharSet) : CharSet :=
  sets.foldl .union .empty

/-- The other case of an ASCII letter; any other code point itself. -/
def asciiSwap (point : Nat) : Nat :=
  if 65 ≤ point ∧ point ≤ 90 then point + 32
  else if 97 ≤ point ∧ point ≤ 122 then point - 32
  else point

/-- Whether the set holds a code point. -/
def holds : CharSet → Nat → Bool
  | .empty, _ => false
  | .range first last, point => first ≤ point && point ≤ last
  | .word, point => Unicode.isWord (Char.ofNat point)
  | .digit, point => Unicode.digitRanges.holds point
  | .blank, point => Unicode.blankRanges.holds point
  | .union left right, point => left.holds point || right.holds point
  | .inter left right, point => left.holds point && right.holds point
  | .diff left right, point => left.holds point && !right.holds point
  | .symmDiff left right, point => left.holds point != right.holds point
  | .compl set, point => !set.holds point
  | .folded set, point => (Unicode.foldOrbit point).any set.holds
  | .asciiFolded set, point => set.holds point || set.holds (asciiSwap point)

def holdsChar (set : CharSet) (c : Char) : Bool :=
  set.holds c.toNat

end CharSet

end Whittle.Pattern
