import Whittle.Decimal.Binary64

/-!
# Decimal numbers to binary ones

A decimal numeral arrives as an integer significand of at most 64 bits and a
power of ten.  It is scaled in binary arithmetic: the significand is rounded to
a binary number and then multiplied or divided once by the rounded power of
ten, in steps of at most 308 for very small numbers.  Numbers too large for the
format are refused; numbers too small become zero.
-/

namespace Whittle.Decimal

open Binary64

/-- The largest power of ten that is a finite binary number. -/
def largestPower : Nat := 308

/-- The binary number nearest to a power of ten. -/
def powerOfTen (exponent : Nat) : Binary64 :=
  ofRatio false (Nat.pow 10 exponent) 1

/-- Divide by a power of ten, the largest finite one at a time. -/
def divByPower (x : Binary64) (exponent : Nat) : Binary64 :=
  if exponent ≤ largestPower then x.divMagnitude (powerOfTen exponent)
  else if x.magnitude = 0 then x
  else divByPower (x.divMagnitude (powerOfTen largestPower)) (exponent - largestPower)
termination_by exponent
decreasing_by simp only [largestPower] at *; omega

/-- Multiply by a power of ten, unless the result is too large. -/
def mulByPower? (x : Binary64) (exponent : Nat) : Option Binary64 :=
  if exponent ≤ largestPower then
    let product := x.mulMagnitude (powerOfTen exponent)
    if product.isFinite then some product else none
  else if x.magnitude = 0 then some x
  else none

/-- The binary number for `significand * 10 ^ exponent`, if it is not too large. -/
def scaled? (negative : Bool) (significand : Nat) (exponent : Int) : Option Binary64 := do
  let start := ofRatio false significand 1
  let size ←
    if 0 ≤ exponent then mulByPower? start exponent.toNat
    else some (divByPower start (-exponent).toNat)
  return if negative then size.neg else size

end Whittle.Decimal
