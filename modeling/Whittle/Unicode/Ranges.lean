/-!
# Character classes as lists of code-point ranges

A class of characters is given by the closed intervals of code points that
make it up.  Membership is a plain search, so that a table is also the
statement of its own meaning.
-/

namespace Whittle.Unicode

/-- A set of code points, as closed intervals in increasing order. -/
abbrev Ranges := List (Nat × Nat)

namespace Ranges

/-- Whether one of the intervals holds the code point. -/
def holds (ranges : Ranges) (point : Nat) : Bool :=
  ranges.any fun (first, last) => first ≤ point && point ≤ last

/-- Whether one of the intervals holds the character. -/
def holdsChar (ranges : Ranges) (c : Char) : Bool :=
  ranges.holds c.toNat

end Ranges

end Whittle.Unicode
