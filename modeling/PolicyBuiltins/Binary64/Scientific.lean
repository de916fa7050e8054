/-
# Decimal digits of binary64 numbers

Scientific notation writes a magnitude as digits with a point behind the first of
them, and a power of ten.  `shortest` chooses the fewest digits that read back as
the same number.  `rounded` has a chosen count of digits and rounds the exact
value, a half going to the even digit.

The numbers that read back as a given one form an interval around it, half way to
its neighbours on both sides.  Its ends belong to it when the mantissa is even.
Below a power of two the neighbour is nearer, so the lower half of the interval is
half as wide.  If the interval meets a grid of decimals at all, it holds one of the
two grid points that enclose the number, so only these two are tried on each grid,
and of two that fit the nearer is taken, the upper one in a tie.
-/

import PolicyBuiltins.Binary64.Basic
import PolicyBuiltins.Numeral.Basic

namespace PolicyBuiltins.Binary64

/-- The digits of a positive number and the exponent of ten of the first one. -/
structure Scientific where
  digits : List Char
  exponent : Int
deriving DecidableEq, Repr

/-- The number of decimal digits of a natural number, one at least. -/
def digitCount (number : Nat) : Nat :=
  if number < 10 then 1 else digitCount (number / 10) + 1
termination_by number

/-- The exponent of the greatest power of ten that is at most the positive
rational `numerator / denominator`. -/
def floorLog10 (numerator denominator : Nat) : Int :=
  if denominator ≤ numerator then (digitCount (numerator / denominator) : Int) - 1
  else -(digitCount ((denominator - 1) / numerator) : Int)

/-- The number `coefficient * 10 ^ exponent` by its digits. -/
def Scientific.ofCoefficient (coefficient : Nat) (exponent : Int) : Scientific :=
  let digits := Numeral.ofNat 10 coefficient
  { digits, exponent := exponent + digits.length - 1 }

/-- The number zero by a count of digits. -/
def Scientific.zero (count : Nat) : Scientific where
  digits := List.replicate count '0'
  exponent := 0

/-- The coefficient, in units of `10 ^ exponent`, that lies in the interval of the
numbers which read back as `mantissa * 2 ^ binaryExponent` and is nearest to it
among its two neighbours on this grid. -/
def coefficientInInterval? (mantissa : Nat) (binaryExponent exponent : Int) :
    Option Nat :=
  -- Quarters of the last mantissa bit make every end of the interval integral.
  let (quarter, unit) := scaledDown 10 (Nat.pow 2 (binaryExponent - 2).toNat)
    (Nat.pow 2 (2 - binaryExponent).toNat) exponent
  let lowerHalf := if mantissa = hiddenBit then quarter else 2 * quarter
  let upperHalf := 2 * quarter
  let lower := 4 * mantissa * quarter / unit
  let excess := 4 * mantissa * quarter % unit
  let lack := unit - excess
  let reaches (distance half : Nat) : Bool :=
    if mantissa % 2 = 0 then distance ≤ half else distance < half
  match reaches excess lowerHalf, reaches lack upperHalf with
  | true, true => some (if excess < lack then lower else lower + 1)
  | true, false => some lower
  | false, true => some (lower + 1)
  | false, false => none

/-- The exponent of ten of the first digit of a positive finite magnitude. -/
def leadingExponent (mantissa : Nat) (binaryExponent : Int) : Int :=
  floorLog10 (mantissa * Nat.pow 2 binaryExponent.toNat)
    (Nat.pow 2 (-binaryExponent).toNat)

/-- The most digits that any number needs to read back as itself. -/
def sufficientDigits : Nat := 17

/-- The fewest digits that read back as `mantissa * 2 ^ exponent`, as a coefficient
and the exponent of ten of its unit. -/
def shortestCoefficient (mantissa : Nat) (exponent : Int) : Nat × Int :=
  let leading := leadingExponent mantissa exponent
  let attempt (extra : Nat) : Option (Nat × Int) :=
    let grid := leading - extra
    (coefficientInInterval? mantissa exponent grid).map fun coefficient =>
      (coefficient, grid)
  ((List.range sufficientDigits).findSome? attempt).getD (0, 0)

/-- Scientific notation by the fewest digits that read back as the number. -/
def shortest (mantissa : Nat) (exponent : Int) : Scientific :=
  if mantissa = 0 then Scientific.zero 1
  else
    let (coefficient, grid) := shortestCoefficient mantissa exponent
    Scientific.ofCoefficient coefficient grid

/-- Scientific notation by `places + 1` digits, rounded from the exact value. -/
def rounded (mantissa : Nat) (exponent : Int) (places : Nat) : Scientific :=
  if mantissa = 0 then Scientific.zero (places + 1)
  else
    let grid := leadingExponent mantissa exponent - places
    let (numerator, denominator) := scaledDown 10 (mantissa * Nat.pow 2 exponent.toNat)
      (Nat.pow 2 (-exponent).toNat) grid
    let carried := Scientific.ofCoefficient (roundHalfEven numerator denominator) grid
    { carried with digits := carried.digits.take (places + 1) }

/-- The decimal of the fewest digits that reads back as a finite number given by
its bits. -/
def decimalOfBits? (bits : UInt64) : Option Decimal :=
  match Magnitude.ofBits? bits with
  | some (.finite mantissa exponent) =>
    let (coefficient, grid) :=
      if mantissa = 0 then (0, 0) else shortestCoefficient mantissa exponent
    let negative := bits &&& signBit != 0
    some (Decimal.ofParts (if negative then -coefficient else coefficient) (-grid))
  | _ => none

end PolicyBuiltins.Binary64
