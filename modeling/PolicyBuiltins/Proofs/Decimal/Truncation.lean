/-
# Decimals as integers

Taking the fractional part away rounds toward zero, up for numbers below zero and down for
the others.  A number is one of the signed 64-bit words exactly if the rational that it
denotes is.
-/

import Mathlib.Data.Rat.Floor
import PolicyBuiltins.Proofs.Decimal.Rational

namespace PolicyBuiltins.Decimal

/-- A number with a fractional part is a quotient of its digits. -/
theorem toRat_eq_div {number : Decimal} (fractional : 0 < number.scale) :
    number.toRat = (number.digits : ℚ) / (10 ^ number.scale.toNat : ℕ) := by
  rw [toRat, cast_ten_pow_toNat fractional.le, zpow_neg, div_eq_mul_inv]

theorem toRat_neg_iff {number : Decimal} : number.toRat < 0 ↔ number.digits < 0 := by
  have unit_pos : (0 : ℚ) < 10 ^ (-number.scale) := zpow_pos (by norm_num) _
  rw [toRat, mul_neg_iff, Int.cast_lt_zero]
  apply Iff.intro
  · rintro (⟨-, negative⟩ | ⟨below, -⟩)
    · exact absurd negative (lt_asymm unit_pos)
    · exact below
  · intro below
    exact Or.inr ⟨below, unit_pos⟩

/-- What is left of a number without its fractional part is the number rounded toward zero. -/
theorem truncate_eq_floor_or_ceil (number : Decimal) :
    number.truncate = if number.toRat < 0 then ⌈number.toRat⌉ else ⌊number.toRat⌋ := by
  by_cases whole : number.isInteger = true
  · rw [toRat_eq_truncate whole, Int.ceil_intCast, Int.floor_intCast, ite_self]
  · have fractional : 0 < number.scale := by
      rw [isInteger, decide_eq_true_iff] at whole
      exact Int.not_le.1 whole
    rw [truncate, if_neg (Int.not_le.2 fractional), Nat.pow_eq]
    split
    next negative =>
      have below := toRat_neg_iff.1 negative
      rw [toRat_eq_div fractional, Rat.ceil_intCast_div_natCast,
        ← Int.tdiv_eq_ediv_of_nonneg (by omega), Int.neg_tdiv, Int.neg_neg]
    next nonnegative =>
      rw [toRat_neg_iff, Int.not_lt] at nonnegative
      rw [toRat_eq_div fractional, Rat.floor_intCast_div_natCast]
      exact Int.tdiv_eq_ediv_of_nonneg nonnegative

/-- The word of a number is the integer that it denotes. -/
theorem toWord?_eq_some_iff_toRat {number : Decimal} {integer : ℤ} :
    number.toWord? = some integer ↔
      number.toRat = integer ∧ -2 ^ 63 ≤ integer ∧ integer < 2 ^ 63 := by
  have range : IsWord integer ↔ -2 ^ 63 ≤ integer ∧ integer < 2 ^ 63 := by
    simp only [IsWord, leastWord, greatestWord]
    omega
  rw [toWord?_eq_some_iff, ← toRat_eq_intCast_iff, range, and_comm]

end PolicyBuiltins.Decimal
