/-
# Floating notation in templates

The exponent form writes one digit, a point with further digits, and an exponent
with a sign and at least two digits.  The general form picks the exponent form for
very large and very small numbers and plain notation otherwise, and drops zeros at
the end of the fraction.

Both start from the binary64 magnitude nearest to the number.  An infinite
magnitude has no digits: its exponent form names it, and its general form shows
the digit zero.
-/

import PolicyBuiltins.Binary64.Scientific

namespace PolicyBuiltins.Template

open Binary64 (Magnitude Scientific)

/-- A mantissa with its exponent of ten behind `e` or `E`. -/
def withExponent (upper : Bool) (mantissa : List Char) (exponent : Int) : List Char :=
  mantissa ++ (if upper then 'E' else 'e') :: (if exponent < 0 then '-' else '+') ::
    Numeral.padded 2 (Numeral.ofNat 10 exponent.natAbs)

/-- Digits with a point behind the first, if there are others. -/
def pointedMantissa : List Char → List Char
  | first :: second :: others => first :: '.' :: second :: others
  | digits => digits

/-- The exponent form with `precision` fraction digits. -/
def exponentForm (upper : Bool) (precision : Nat) : Magnitude → List Char
  | .finite mantissa exponent =>
    let scientific := Binary64.rounded mantissa exponent precision
    withExponent upper (pointedMantissa scientific.digits) scientific.exponent
  | .infinite => withExponent upper "inf".toList 0

/-- Digits of a number and the place of the point, counted from before the first
digit.  There are no zeros at the end, except that zero has one digit before the
point. -/
structure PlacedDigits where
  digits : List Char
  point : Int
deriving DecidableEq, Repr

namespace PlacedDigits

/-- The digit zero before the point. -/
def zero : PlacedDigits where
  digits := ['0']
  point := 1

/-- The digits of scientific notation without the zeros at their end. -/
def ofScientific (scientific : Scientific) : PlacedDigits :=
  match (scientific.digits.reverse.dropWhile (· == '0')).reverse with
  | [] => zero
  | digits => { digits, point := scientific.exponent + 1 }

/-- The digits that the general form shows: the fewest that read back, or those of
a precision. -/
def ofMagnitude (precision : Option Nat) : Magnitude → PlacedDigits
  | .finite mantissa exponent =>
    ofScientific <|
      match precision with
      | none => Binary64.shortest mantissa exponent
      | some precision => Binary64.rounded mantissa exponent (precision - 1)
  | .infinite => zero

/-- The digit at a place counted from the first digit; zeros surround the digits. -/
def digitAt (placed : PlacedDigits) (place : Int) : Char :=
  if place < 0 then '0' else placed.digits.getD place.toNat '0'

/-- Plain notation with a count of fraction digits. -/
def plain (placed : PlacedDigits) (decimals : Nat) : List Char :=
  let whole :=
    if placed.point ≤ 0 then ['0']
    else (List.range placed.point.toNat).map fun (place : Nat) => placed.digitAt place
  if decimals = 0 then whole
  else whole ++ '.' :: (List.range decimals).map fun (place : Nat) =>
    placed.digitAt (placed.point + place)

end PlacedDigits

/-- The general form.  The exponent form is used from an exponent below -4, and
from a threshold on: six without a precision, and else the precision or, where the
number is written by fewer digits and these reach the point, their count. -/
def generalForm (upper : Bool) (precision : Option Nat) (magnitude : Magnitude) :
    List Char :=
  let asked := precision.map (max 1)
  let placed := PlacedDigits.ofMagnitude asked magnitude
  let count := placed.digits.length
  let (shown, threshold) := match asked with
    | none => (count, 6)
    | some asked =>
      (asked, if count < asked ∧ placed.point ≤ count then count else asked)
  let exponent := placed.point - 1
  if exponent < -4 ∨ threshold ≤ exponent then
    withExponent upper (pointedMantissa (placed.digits.take (min shown count))) exponent
  else
    let shown := if placed.point < shown then count else shown
    placed.plain (shown - placed.point).toNat

end PolicyBuiltins.Template
