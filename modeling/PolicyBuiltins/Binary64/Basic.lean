/-
# Binary64 numbers

A finite binary64 number is a sign and a magnitude `mantissa * 2 ^ exponent`.  The
mantissa has at most 53 bits and the exponent is at least -1074; a mantissa of
fewer than 53 bits occurs only there.  `Magnitude.nearest` rounds a decimal
magnitude once, straight from its exact value: the nearest number, the even
mantissa of two that are equally near, and infinity from the middle of the gap
above the greatest finite number on.

Everything is exact arithmetic on natural numbers.  Decimals far outside the
range are settled by their scale alone, before any power of ten is formed.
-/

import PolicyBuiltins.Decimal.Basic
import PolicyBuiltins.Rounding

namespace PolicyBuiltins.Binary64

/-- The magnitude of a binary64 number that is not a NaN. -/
inductive Magnitude where
  | finite (mantissa : Nat) (exponent : Int)
  | infinite
deriving DecidableEq, Repr

/-- The least exponent of a magnitude. -/
def minExponent : Int := -1074

/-- The greatest exponent of a finite magnitude. -/
def maxExponent : Int := 971

/-- The number of fraction bits of a stored mantissa. -/
def fractionBits : Nat := 52

/-- The bit in front of the fraction bits, `2 ^ 52`, which is not stored. -/
def hiddenBit : Nat := 0x10000000000000

/-- The exponent of the greatest power of two that is at most the positive
rational `numerator / denominator`. -/
def floorLog2 (numerator denominator : Nat) : Int :=
  if denominator ≤ numerator then (numerator / denominator).log2
  else -(((denominator - 1) / numerator).log2 + 1 : Int)

/-- The positive rational `numerator / denominator` divided by `radix ^ exponent`,
as a numerator and a denominator. -/
def scaledDown (radix numerator denominator : Nat) (exponent : Int) : Nat × Nat :=
  (numerator * Nat.pow radix (-exponent).toNat,
    denominator * Nat.pow radix exponent.toNat)

namespace Magnitude

/-- The magnitude zero. -/
def zero : Magnitude := finite 0 minExponent

/-- The magnitude of a mantissa of at most `2 ^ 53`: the next exponent takes over
from the greatest mantissa, and infinity from the greatest exponent. -/
def ofRounded (mantissa : Nat) (exponent : Int) : Magnitude :=
  let carries := mantissa = 2 * hiddenBit
  let exponent := if carries then exponent + 1 else exponent
  if maxExponent < exponent then infinite
  else finite (if carries then hiddenBit else mantissa) exponent

/-- The magnitude nearest to a positive rational. -/
def ofRational (numerator denominator : Nat) : Magnitude :=
  let exponent := max (floorLog2 numerator denominator - fractionBits) minExponent
  let (scaledNumerator, scaledDenominator) := scaledDown 2 numerator denominator exponent
  ofRounded (roundHalfEven scaledNumerator scaledDenominator) exponent

/-- The magnitude nearest to that of a decimal.  A number of at least `10 ^ 309`
is infinite and one below `10 ^ (-324)` is zero, whatever its digits are. -/
def nearest (number : Decimal) : Magnitude :=
  let digits := number.digits.natAbs
  if digits = 0 then zero
  else if number.scale ≤ -309 then infinite
  else if number.scale ≥ digits.log2 + 325 then zero
  else
    let (numerator, denominator) := scaledDown 10 digits 1 number.scale
    ofRational numerator denominator

/-- The bits of a magnitude, the sign bit clear. -/
def bits : Magnitude → Nat
  | finite mantissa exponent =>
    if mantissa < hiddenBit then mantissa
    else (exponent - minExponent).toNat * hiddenBit + mantissa
  | infinite => 2047 * hiddenBit

/-- The magnitude of a bit pattern, its sign bit left aside; a NaN has none. -/
def ofBits? (bits : UInt64) : Option Magnitude :=
  let fraction := bits.toNat % hiddenBit
  let biased := bits.toNat / hiddenBit % 2048
  if biased = 2047 then if fraction = 0 then some infinite else none
  else if biased = 0 then some (finite fraction minExponent)
  else some (finite (hiddenBit + fraction) (biased - 1 + minExponent))

end Magnitude

/-- The sign bit of a bit pattern. -/
def signBit : UInt64 := 0x8000000000000000

/-- The bits of the binary64 number nearest to a decimal.  A number that is too
small keeps its sign as that of zero. -/
def bitsOfDecimal (number : Decimal) : UInt64 :=
  let magnitude := UInt64.ofNat (Magnitude.nearest number).bits
  if number.isNegative then signBit ||| magnitude else magnitude

end PolicyBuiltins.Binary64
