/-!
# Binary floating-point numbers

A number is its 64-bit pattern: a sign, eleven bits of exponent and fifty-two
bits of fraction.  Arithmetic is exact arithmetic on natural numbers followed
by one rounding to the nearest representable value, ties to the even one.
-/

namespace Whittle.Decimal

/-- A double-precision number, as its bit pattern. -/
structure Binary64 where
  bits : UInt64
deriving Repr, DecidableEq

namespace Binary64

/-- The pattern of infinity, and the bound of the finite ones. -/
def infinityBits : Nat := 0x7ff <<< 52

/-- Give the pattern of a magnitude its sign. -/
def ofMagnitude (negative : Bool) (magnitude : Nat) : Binary64 :=
  ⟨UInt64.ofNat (if negative then (1 <<< 63) + magnitude else magnitude)⟩

def isNegative (x : Binary64) : Bool :=
  1 <<< 63 ≤ x.bits.toNat

def magnitude (x : Binary64) : Nat :=
  x.bits.toNat % (1 <<< 63)

/-- Whether the number is neither infinite nor a NaN. -/
def isFinite (x : Binary64) : Bool :=
  x.magnitude < infinityBits

/-- The magnitude of a finite number is `significand * 2 ^ (scale - 1074)`. -/
def significand (x : Binary64) : Nat :=
  let fraction := x.magnitude % (1 <<< 52)
  if x.magnitude >>> 52 = 0 then fraction else (1 <<< 52) + fraction

/-- The power of two of `significand`, counted from the smallest one. -/
def scale (x : Binary64) : Nat :=
  (x.magnitude >>> 52) - 1

/-- The quotient rounded to the nearest integer, a tie to the even one. -/
def roundDiv (numerator denominator : Nat) : Nat :=
  let quotient := numerator / denominator
  let twice := 2 * (numerator % denominator)
  if twice < denominator ∨ (twice = denominator ∧ quotient % 2 = 0) then quotient
  else quotient + 1

/--
The pattern of the nearest magnitude to `numerator / denominator`.  With the
integer part of the binary logarithm known, the quotient is scaled to 53 bits
(or to the smallest scale) and rounded once; a carry into the next power of two
moves the exponent by itself.
-/
def magnitudeOfRatio (numerator denominator : Nat) : Nat :=
  if numerator = 0 ∨ denominator = 0 then 0
  else
    let guess := (numerator.log2 : Int) - denominator.log2
    let reaches :=
      if 0 ≤ guess then denominator <<< guess.toNat ≤ numerator
      else denominator ≤ numerator <<< (-guess).toNat
    let log := if reaches then guess else guess - 1
    let scale := (log + 1022).toNat
    let rounded := roundDiv (numerator <<< 1074) (denominator <<< scale)
    min ((scale <<< 52) + rounded) infinityBits

/-- The nearest number to a quotient with a sign. -/
def ofRatio (negative : Bool) (numerator denominator : Nat) : Binary64 :=
  ofMagnitude negative (magnitudeOfRatio numerator denominator)

def ofInt (n : Int) : Binary64 :=
  ofRatio (n < 0) n.natAbs 1

def neg (x : Binary64) : Binary64 :=
  ofMagnitude (!x.isNegative) x.magnitude

/-- The rounded product of two finite numbers without sign. -/
def mulMagnitude (x y : Binary64) : Binary64 :=
  ofRatio false ((x.significand * y.significand) <<< (x.scale + y.scale)) (1 <<< 2148)

/-- The rounded quotient of two finite numbers without sign. -/
def divMagnitude (x y : Binary64) : Binary64 :=
  ofRatio false (x.significand <<< x.scale) (y.significand <<< y.scale)

end Binary64

end Whittle.Decimal
