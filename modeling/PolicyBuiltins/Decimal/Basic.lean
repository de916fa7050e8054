/-
# Exact decimal numbers

A decimal denotes `digits * 10 ^ (-scale)`, with as many digits as it takes.  Each
number has exactly one such pair in normal form: zero has scale zero, and the
digits of any other number do not end in zero.  The normal form is part of the
type, so equality of pairs is equality of numbers, and a number is an integer
exactly when its scale is not positive.

The scale may be any integer.  Where a number is made of digits and a scale that a word
holds, `ofWordScale?` keeps the scale in words on the way to the normal form.
-/

import PolicyBuiltins.Word

namespace PolicyBuiltins

/-- A number `digits * 10 ^ (-scale)` in normal form. -/
@[ext]
structure Decimal where
  digits : Int
  scale : Int
  scale_of_zero : digits = 0 → scale = 0
  last_digit_ne_zero : digits ≠ 0 → digits % 10 ≠ 0
deriving DecidableEq

namespace Decimal

/-- The number zero. -/
def zero : Decimal where
  digits := 0
  scale := 0
  scale_of_zero _ := rfl
  last_digit_ne_zero nonzero := absurd rfl nonzero

/-- A natural number without its trailing zeros, and the scale that is left when
each zero taken away lowers it by one.  Zero is left alone. -/
def stripZeros (magnitude : Nat) (scale : Int) : Nat × Int :=
  if magnitude ≠ 0 ∧ magnitude % 10 = 0 then stripZeros (magnitude / 10) (scale - 1)
  else (magnitude, scale)
termination_by magnitude

theorem stripZeros_ne_zero {magnitude : Nat} (nonzero : magnitude ≠ 0) (scale : Int) :
    (stripZeros magnitude scale).1 ≠ 0 := by
  fun_induction stripZeros magnitude scale with
  | case1 magnitude scale trailing ih => exact ih (by omega)
  | case2 magnitude scale settled => exact nonzero

theorem stripZeros_last_digit {magnitude : Nat} (nonzero : magnitude ≠ 0) (scale : Int) :
    (stripZeros magnitude scale).1 % 10 ≠ 0 := by
  fun_induction stripZeros magnitude scale with
  | case1 magnitude scale trailing ih => exact ih (by omega)
  | case2 magnitude scale settled => exact fun zero => settled ⟨nonzero, zero⟩

/-- Stripping zeros only lowers the scale. -/
theorem scale_stripZeros_le (magnitude : Nat) (scale : Int) :
    (stripZeros magnitude scale).2 ≤ scale := by
  fun_induction stripZeros magnitude scale with
  | case1 magnitude scale trailing ih => omega
  | case2 magnitude scale settled => exact Int.le_refl _

/-- Nothing is stripped from a number that does not end in zero. -/
theorem stripZeros_of_last_digit_ne_zero {magnitude : Nat} (settled : magnitude % 10 ≠ 0)
    (scale : Int) : stripZeros magnitude scale = (magnitude, scale) := by
  rw [stripZeros, if_neg (by omega)]

/-- The number `digits * 10 ^ (-scale)`, for any digits and scale. -/
def ofParts (digits scale : Int) : Decimal :=
  if nonzero : digits = 0 then zero
  else
    let stripped := stripZeros digits.natAbs scale
    { digits := digits.sign * stripped.1
      scale := stripped.2
      scale_of_zero := by
        intro digits_zero
        have stripped_ne_zero := stripZeros_ne_zero (Int.natAbs_ne_zero.2 nonzero) scale
        rcases Int.mul_eq_zero.1 digits_zero with sign_zero | stripped_zero
        · exact absurd (Int.sign_eq_zero_iff_zero.1 sign_zero) nonzero
        · exact absurd (Int.natCast_eq_zero.1 stripped_zero) stripped_ne_zero
      last_digit_ne_zero := by
        intro _ last_zero
        have last_ne_zero := stripZeros_last_digit (Int.natAbs_ne_zero.2 nonzero) scale
        rcases Int.lt_or_gt_of_ne nonzero with negative | positive
        · rw [Int.sign_eq_neg_one_of_neg negative] at last_zero
          simp only [stripped] at last_zero
          omega
        · rw [Int.sign_eq_one_of_pos positive] at last_zero
          simp only [stripped] at last_zero
          omega }

/-- The parts of a number give the number back. -/
theorem ofParts_digits_scale (number : Decimal) :
    ofParts number.digits number.scale = number := by
  by_cases zero_digits : number.digits = 0
  · ext
    · simp [ofParts, zero_digits, zero]
    · simp [ofParts, zero_digits, zero, number.scale_of_zero zero_digits]
  · have settled : number.digits.natAbs % 10 ≠ 0 := by
      have := number.last_digit_ne_zero zero_digits
      omega
    ext
    · simp only [ofParts, zero_digits, ↓reduceDIte]
      rw [stripZeros_of_last_digit_ne_zero settled]
      exact Int.sign_mul_natAbs number.digits
    · simp only [ofParts, zero_digits, ↓reduceDIte]
      rw [stripZeros_of_last_digit_ne_zero settled]

/-- The normal form of digits and a scale, one zero at a time, with the scale in a word.
Nothing is left if the scale leaves the words on the way. -/
def settle? (digits : Int) (scale : Int64) : Option (Int × Int64) :=
  if digits = 0 then some (0, 0)
  else if digits.tmod 10 = 0 then
    match word? (scale.toInt - 1) with
    | some lower => settle? (digits.tdiv 10) lower
    | none => none
  else some (digits, scale)
termination_by digits.natAbs
decreasing_by
  rw [Int.natAbs_tdiv]
  exact Nat.div_lt_self (by omega) (by decide)

/-- The number of digits at a scale in a word, if its normal scale is a word as well. -/
def ofWordScale? (digits : Int) (scale : Int64) : Option Decimal :=
  (settle? digits scale).map fun (digits, scale) => ofParts digits scale.toInt

/-- The decimal of an integer. -/
def ofInt (number : Int) : Decimal :=
  ofParts number 0

/-- Whether the number has no fractional part. -/
def isInteger (number : Decimal) : Bool :=
  number.scale ≤ 0

/-- Whether the number is below zero. -/
def isNegative (number : Decimal) : Bool :=
  number.digits < 0

/-- The number without its fractional part. -/
def truncate (number : Decimal) : Int :=
  if number.scale ≤ 0 then number.digits * Nat.pow 10 (-number.scale).toNat
  else number.digits.tdiv (Nat.pow 10 number.scale.toNat)

/-- The digits that the number has at a scale at least its own. -/
def digitsAt (number : Decimal) (scale : Int) : Int :=
  number.digits * Nat.pow 10 (scale - number.scale).toNat

/-- The order of two numbers: by sign when the signs differ, and else by their
digits at a common scale. -/
def order (left right : Decimal) : Ordering :=
  (compare left.digits.sign right.digits.sign).then
    (let scale := max left.scale right.scale
     compare (left.digitsAt scale) (right.digitsAt scale))

instance : Ord Decimal := ⟨order⟩

/-- The order of a number and a signed 64-bit word. -/
def orderWord (number : Decimal) (word : Int64) : Ordering :=
  number.order (ofInt word.toInt)

/-- Whether a number is the integer of a signed 64-bit word. -/
def equalsWord (number : Decimal) (word : Int64) : Bool :=
  number == ofInt word.toInt

/-- The number as an integer of a 64-bit word, if it is one. -/
def toWord? (number : Decimal) : Option Int :=
  if number.isInteger ∧ IsWord number.truncate then some number.truncate else none

end Decimal

end PolicyBuiltins
