import Whittle.Decimal.Shortest

/-!
# How numbers are written

The digits of a number are the fewest that read back; this module places the
point or the exponent.
-/

namespace Whittle.Decimal

/-- Where positional notation begins and ends, as powers of ten. -/
structure NumberFormat where
  /-- The smallest magnitude written with a point is ten to this power. -/
  positionalFrom : Int
  /-- Magnitudes from ten to this power on are written with an exponent. -/
  positionalBelow : Int
  infinity : String
  notANumber : String
deriving Repr, DecidableEq

/--
Literals are positional from `0.0001` up to below `10^16`, with at least one
digit after the point; all others have an exponent and only the digits they need.
-/
def literalFormat : NumberFormat where
  positionalFrom := -4
  positionalBelow := 16
  infinity := "inf"
  notANumber := "NaN"

/-- The digits of an integer in base ten. -/
def digitsOf (n : Nat) : List Char :=
  Nat.toDigits 10 n

/-- An integer in base ten, with a sign when it is negative. -/
def ofInt (n : Int) : List Char :=
  if n < 0 then '-' :: digitsOf n.natAbs else digitsOf n.natAbs

namespace NumberFormat

/-- Digits with a point after the first `whole` places; at least one digit on either side. -/
def positional (digits : List Char) (whole : Int) : List Char :=
  if whole ≤ 0 then
    ['0', '.'] ++ List.replicate (-whole).toNat '0' ++ digits
  else
    let places := whole.toNat
    let integral := digits.take places ++ List.replicate (places - digits.length) '0'
    match digits.drop places with
    | [] => integral ++ ['.', '0']
    | fraction => integral ++ '.' :: fraction

/-- Digits with a point after the first one, if more follow, and the exponent. -/
def scientific (digits : List Char) (exponent : Int) : List Char :=
  match digits with
  | [] => []
  | [digit] => digit :: 'e' :: ofInt exponent
  | digit :: rest => digit :: '.' :: rest ++ 'e' :: ofInt exponent

def ofPositive (format : NumberFormat) (x : Binary64) : List Char :=
  let decimal := shortest x
  let digits := digitsOf decimal.digits
  let whole := digits.length + decimal.exponent
  if format.positionalFrom < whole ∧ whole ≤ format.positionalBelow then
    positional digits whole
  else scientific digits (whole - 1)

def write (format : NumberFormat) (x : Binary64) : List Char :=
  if Binary64.infinityBits < x.magnitude then format.notANumber.toList
  else
    let size :=
      if x.magnitude = Binary64.infinityBits then format.infinity.toList
      else if x.magnitude = 0 then ['0', '.', '0']
      else format.ofPositive x
    if x.isNegative then '-' :: size else size

end NumberFormat

end Whittle.Decimal
