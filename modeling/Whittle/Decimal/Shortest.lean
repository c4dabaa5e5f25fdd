import Whittle.Decimal.Binary64

/-!
# The fewest digits that read back

Around a positive binary number lies the interval of the reals that round to
it; its ends belong to it when the significand is even.  The decimal grids are
tried from the coarsest to the finest, and on each grid the two points next to
the number.  The first grid with a point in the interval gives the digits; of
two points the nearer one, and the upper one of two equally near.
-/

namespace Whittle.Decimal

/-- A decimal magnitude `digits * 10 ^ exponent`. -/
structure Magnitude where
  digits : Nat
  exponent : Int
deriving Repr, DecidableEq

/-- Every magnitude is an integer multiple of `10 ^ -gridShift`, after scaling by `2 ^ 1076`. -/
def gridShift : Nat := 345

/--
An interval around a number, all in the unit `2 ^ -1076 * 10 ^ -gridShift`,
and whether its ends belong to it.
-/
structure Neighbourhood where
  low : Nat
  centre : Nat
  high : Nat
  closed : Bool
deriving Repr, DecidableEq

namespace Neighbourhood

/-- The reals that round to the given finite positive number. -/
def ofBinary (x : Binary64) : Neighbourhood :=
  let unit := Nat.pow 10 gridShift <<< x.scale
  let m := x.significand
  let below := if m = 1 <<< 52 ∧ 0 < x.scale then 1 else 2
  { low := (4 * m - below) * unit
    centre := 4 * m * unit
    high := (4 * m + 2) * unit
    closed := m % 2 == 0 }

/-- Whether a point lies in the interval. -/
def holds (around : Neighbourhood) (point : Nat) : Bool :=
  if around.closed then around.low ≤ point && point ≤ around.high
  else around.low < point && point < around.high

/-- The best point of the grid with the given spacing, counted in spacings. -/
def onGrid? (around : Neighbourhood) (spacing : Nat) : Option Nat :=
  let lower := around.centre / spacing
  let upper := lower + 1
  match around.holds (lower * spacing), around.holds (upper * spacing) with
  | true, false => some lower
  | false, true => some upper
  | true, true =>
      if around.centre - lower * spacing < upper * spacing - around.centre then some lower
      else some upper
  | false, false => none

/-- Try the grids `10 ^ (exponent - gridShift)` from the given exponent downwards. -/
def shortestFrom (around : Neighbourhood) : Nat → Magnitude
  | 0 => ⟨around.centre >>> 1076, -gridShift⟩
  | exponent + 1 =>
      match around.onGrid? (Nat.pow 10 (exponent + 1) <<< 1076) with
      | some digits => ⟨digits, (exponent + 1 : Int) - gridShift⟩
      | none => shortestFrom around exponent

end Neighbourhood

/-- The shortest decimal that reads back as the given finite positive number. -/
def shortest (x : Binary64) : Magnitude :=
  let around := Neighbourhood.ofBinary x
  around.shortestFrom (Nat.toDigits 10 (around.centre >>> 1076)).length

end Whittle.Decimal
