/-
# The normal form keeps the number

Bringing digits and scale to normal form changes neither the number nor anything
that is in normal form already.
-/

import Mathlib.Algebra.Order.Ring.Nat
import PolicyBuiltins.Decimal.Basic

namespace PolicyBuiltins.Decimal

/-- The zeros taken away are accounted for by the scale. -/
theorem stripZeros_mul_pow (magnitude : Nat) (scale : Int) :
    (stripZeros magnitude scale).1 *
      10 ^ (scale - (stripZeros magnitude scale).2).toNat = magnitude := by
  fun_induction stripZeros magnitude scale with
  | case1 magnitude scale trailing ih =>
    have lower := scale_stripZeros_le (magnitude / 10) (scale - 1)
    have shift : (scale - (stripZeros (magnitude / 10) (scale - 1)).2).toNat =
        (scale - 1 - (stripZeros (magnitude / 10) (scale - 1)).2).toNat + 1 := by omega
    rw [shift, Nat.pow_succ, ← Nat.mul_assoc, ih]
    omega
  | case2 magnitude scale settled => simp

/-- Zeros at the end of a magnitude are all taken away. -/
theorem stripZeros_mul_ten_pow {magnitude : Nat} (nonzero : magnitude ≠ 0) (count : Nat)
    (scale : Int) :
    stripZeros (magnitude * 10 ^ count) scale = stripZeros magnitude (scale - count) := by
  induction count generalizing scale with
  | zero => simp
  | succ count ih =>
    have positive : magnitude * 10 ^ count ≠ 0 :=
      Nat.mul_ne_zero nonzero (Nat.ne_of_gt (Nat.pow_pos (by omega)))
    have shifted : magnitude * 10 ^ (count + 1) = magnitude * 10 ^ count * 10 := by
      rw [Nat.pow_succ, Nat.mul_assoc]
    rw [shifted, stripZeros, if_pos ⟨by omega, by omega⟩,
      Nat.mul_div_cancel _ (by omega), ih]
    congr 1
    omega

/-- A power of ten in the digits is the same number at a lower scale. -/
theorem ofParts_mul_ten_pow (digits scale : Int) (count : Nat) :
    ofParts (digits * (10 ^ count : Nat)) scale = ofParts digits (scale - count) := by
  have ten_pow_pos : 0 < 10 ^ count := Nat.pow_pos (by omega)
  by_cases zero_digits : digits = 0
  · simp [ofParts, zero_digits]
  · have nonzero : digits * (10 ^ count : Nat) ≠ 0 :=
      Int.mul_ne_zero zero_digits (by omega)
    have stripped := stripZeros_mul_ten_pow (Int.natAbs_ne_zero.2 zero_digits) count scale
    have power_sign : ((10 ^ count : Nat) : Int).sign = 1 :=
      Int.sign_eq_one_of_pos (Int.natCast_pos.2 ten_pow_pos)
    ext
    · simp only [ofParts, zero_digits, nonzero, ↓reduceDIte, Int.natAbs_mul,
        Int.natAbs_natCast, stripped, Int.sign_mul, power_sign, Int.mul_one]
    · simp only [ofParts, zero_digits, nonzero, ↓reduceDIte, Int.natAbs_mul,
        Int.natAbs_natCast, stripped]

/-- The normal form of digits other than zero lowers the scale, if it changes it. -/
theorem scale_ofParts_le {digits : Int} (nonzero : digits ≠ 0) (scale : Int) :
    (ofParts digits scale).scale ≤ scale := by
  simp only [ofParts, nonzero, ↓reduceDIte]
  exact scale_stripZeros_le digits.natAbs scale

/-- The normal form has the same digits up to the power of ten by which it lowers the
scale. -/
theorem digits_ofParts_mul_pow (digits scale : Int) :
    (ofParts digits scale).digits *
      (10 ^ (scale - (ofParts digits scale).scale).toNat : Nat) = digits := by
  by_cases zero_digits : digits = 0
  · simp [ofParts, zero, zero_digits]
  · simp only [ofParts, zero_digits, ↓reduceDIte]
    rw [Int.mul_assoc, ← Int.natCast_mul, stripZeros_mul_pow, Int.sign_mul_natAbs]

/-- A number without fractional part is the decimal of what is left when that part is
taken away. -/
theorem ofInt_truncate {number : Decimal} (whole : number.isInteger = true) :
    ofInt number.truncate = number := by
  have scale_nonpos : number.scale ≤ 0 := of_decide_eq_true whole
  rw [ofInt, truncate, if_pos scale_nonpos, Nat.pow_eq, ofParts_mul_ten_pow]
  have scale_back : (0 : Int) - ((-number.scale).toNat : Int) = number.scale := by omega
  rw [scale_back, ofParts_digits_scale]

theorem isInteger_ofInt (number : Int) : (ofInt number).isInteger = true := by
  by_cases zero_number : number = 0
  · rw [zero_number]
    rfl
  · have lowered := scale_stripZeros_le number.natAbs 0
    simp only [ofInt, ofParts, zero_number, ↓reduceDIte, isInteger]
    exact decide_eq_true lowered

theorem truncate_ofInt (number : Int) : (ofInt number).truncate = number := by
  by_cases zero_number : number = 0
  · rw [zero_number]
    rfl
  · have lowered := scale_stripZeros_le number.natAbs 0
    have restored := stripZeros_mul_pow number.natAbs 0
    rw [Int.zero_sub] at restored
    simp only [ofInt, ofParts, zero_number, ↓reduceDIte, truncate, if_pos lowered]
    rw [Int.mul_assoc, Nat.pow_eq, ← Int.natCast_mul, restored, Int.sign_mul_natAbs]

theorem ofInt_injective : Function.Injective ofInt := by
  intro first second same
  rw [← truncate_ofInt first, same, truncate_ofInt]

/-- The word of a number is the integer that it is. -/
theorem toWord?_eq_some_iff {number : Decimal} {word : Int} :
    number.toWord? = some word ↔ IsWord word ∧ number = ofInt word := by
  rw [toWord?]
  constructor
  · intro found
    split at found
    · rename_i fits
      rw [← Option.some.inj found]
      exact ⟨fits.2, (ofInt_truncate fits.1).symm⟩
    · cases found
  · rintro ⟨fits, rfl⟩
    rw [if_pos ⟨isInteger_ofInt word, (truncate_ofInt word).symm ▸ fits⟩, truncate_ofInt]

end PolicyBuiltins.Decimal
