/-
# Plain decimal notation

An integer is written as its numeral, and any other number with as many fraction
digits as its scale.  `fixed` writes any number with a chosen count of fraction
digits; the last of them is rounded, a half going to the even digit.  A minus
appears only when what is written is below zero.
-/

import PolicyBuiltins.Decimal.Basic
import PolicyBuiltins.Numeral.Basic
import PolicyBuiltins.Rounding

namespace PolicyBuiltins.Decimal

/-- `units * 10 ^ (-places)` with exactly `places` fraction digits. -/
def pointed (units : Nat) (places : Nat) : List Char :=
  if places = 0 then Numeral.ofNat 10 units
  else
    let digits := Numeral.padded (places + 1) (Numeral.ofNat 10 units)
    let whole := digits.length - places
    digits.take whole ++ '.' :: digits.drop whole

/-- A text behind a minus where the number is below zero. -/
def signed (negative : Bool) (text : List Char) : List Char :=
  if negative then '-' :: text else text

/-- The canonical text of a number. -/
def text (number : Decimal) : List Char :=
  if number.isInteger then Numeral.ofInt 10 number.truncate
  else signed number.isNegative (pointed number.digits.natAbs number.scale.toNat)

/-- The magnitude of a number in units of `10 ^ (-places)`, rounded. -/
def unitsAt (number : Decimal) (places : Nat) : Nat :=
  if number.scale ≤ places then
    number.digits.natAbs * Nat.pow 10 (places - number.scale).toNat
  else roundHalfEven number.digits.natAbs (Nat.pow 10 (number.scale - places).toNat)

/-- The text of a number with exactly `places` fraction digits. -/
def fixed (number : Decimal) (places : Nat) : List Char :=
  let units := number.unitsAt places
  signed (number.isNegative && units != 0) (pointed units places)

instance : ToString Decimal := ⟨fun number => String.ofList number.text⟩

end PolicyBuiltins.Decimal
