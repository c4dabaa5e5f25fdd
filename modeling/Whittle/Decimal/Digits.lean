/-!
# Decimal digits as settings spell numbers

A number in an option or a variable is written with decimal digits, with any
number of zeros and at most one plus sign before them.
-/

namespace Whittle.Decimal

/-- The value of a row of decimal digits that is not empty. -/
def digits? : List Char → Option Nat
  | [] => none
  | text =>
      if text.all Char.isDigit then
        some (text.foldl (fun value digit => value * 10 + (digit.toNat - 48)) 0)
      else none

def natWithin? (least greatest : Nat) (text : String) : Option Nat := do
  let digits := match text.toList with
    | '+' :: rest => rest
    | unsigned => unsigned
  let value ← digits? digits
  if least ≤ value ∧ value ≤ greatest then some value else none

end Whittle.Decimal
