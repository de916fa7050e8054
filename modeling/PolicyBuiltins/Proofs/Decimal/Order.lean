/-
# The order of numbers

Numbers are ordered by their signs first and by their digits at a common scale where the
signs agree.  This is the order of the rationals that they denote.  It is therefore total,
and as no rational is denoted twice, numbers that compare as equal are the same number.  A
number and a word compare as the number and the integer in the word.
-/

import Mathlib.Order.Compare
import Mathlib.Tactic.NormNum
import PolicyBuiltins.Proofs.Decimal.Rational

namespace PolicyBuiltins.Decimal

/-! ## Digits at a common scale -/

/-- At a scale at least its own, a number has its digits there as multiples of the unit. -/
theorem toRat_eq_digitsAt_mul {number : Decimal} {scale : ℤ} (lower : number.scale ≤ scale) :
    number.toRat = number.digitsAt scale * (10 : ℚ) ^ (-scale) := by
  rw [toRat, ten_zpow_neg_eq_mul lower, ← mul_assoc, digitsAt, Nat.pow_eq]
  push_cast
  rfl

/-- Digits at another scale keep the sign. -/
theorem sign_digitsAt (number : Decimal) (scale : ℤ) :
    (number.digitsAt scale).sign = number.digits.sign := by
  have power_pos : 0 < ((Nat.pow 10 (scale - number.scale).toNat : ℕ) : ℤ) :=
    Int.natCast_pos.2 (Nat.pow_pos (by decide))
  rw [digitsAt, Int.sign_mul, Int.sign_eq_one_of_pos power_pos, mul_one]

theorem lt_of_sign_lt {first second : ℤ} (below : first.sign < second.sign) :
    first < second := by
  grind

/-- Looking at the signs first does not change how the digits at a common scale compare. -/
theorem order_eq_compare_digitsAt (first second : Decimal) :
    first.order second =
      compare (first.digitsAt (max first.scale second.scale))
        (second.digitsAt (max first.scale second.scale)) := by
  generalize aligned : max first.scale second.scale = scale
  simp only [order, aligned]
  cases signs : compare first.digits.sign second.digits.sign with
  | lt =>
    rw [compare_lt_iff_lt, ← sign_digitsAt first scale, ← sign_digitsAt second scale] at signs
    rw [compare_lt_iff_lt.2 (lt_of_sign_lt signs)]
    rfl
  | eq => rfl
  | gt =>
    rw [compare_gt_iff_gt, ← sign_digitsAt first scale, ← sign_digitsAt second scale] at signs
    rw [compare_gt_iff_gt.2 (lt_of_sign_lt signs)]
    rfl

/-! ## The order of the rationals -/

/-- Numbers compare as the rationals that they denote. -/
theorem compare_eq_compare_toRat (first second : Decimal) :
    compare first second = compare first.toRat second.toRat := by
  have unit_pos : (0 : ℚ) < 10 ^ (-max first.scale second.scale) := zpow_pos (by norm_num) _
  show first.order second = _
  rw [order_eq_compare_digitsAt, toRat_eq_digitsAt_mul (le_max_left first.scale second.scale),
    toRat_eq_digitsAt_mul (le_max_right first.scale second.scale)]
  generalize first.digitsAt _ = digits, second.digitsAt _ = digits'
  rcases lt_trichotomy digits digits' with below | rfl | above
  · rw [compare_lt_iff_lt.2 below, eq_comm, compare_lt_iff_lt]
    refine mul_lt_mul_of_pos_right ?_ unit_pos
    exact_mod_cast below
  · rw [compare_eq_iff_eq.2 rfl, eq_comm, compare_eq_iff_eq]
  · rw [compare_gt_iff_gt.2 above, eq_comm, compare_gt_iff_gt]
    refine mul_lt_mul_of_pos_right ?_ unit_pos
    exact_mod_cast above

/-- One number is at most another exactly when its rational is. -/
theorem isLE_compare_iff {first second : Decimal} :
    (compare first second).isLE = true ↔ first.toRat ≤ second.toRat := by
  rw [compare_eq_compare_toRat]
  exact Ordering.isLE_iff_ne_gt.trans compare_le_iff_le

/-! ## Words -/

theorem orderWord_eq_compare (number : Decimal) (word : Int64) :
    number.orderWord word = compare number.toRat word.toInt := by
  rw [← toRat_ofInt]
  exact compare_eq_compare_toRat number (ofInt word.toInt)

theorem equalsWord_iff {number : Decimal} {word : Int64} :
    number.equalsWord word = true ↔ number.toRat = word.toInt := by
  rw [equalsWord, beq_iff_eq, ← toRat_ofInt, toRat_injective.eq_iff]

/-- Numbers are ordered as the rationals that they denote.  The order is total, numbers
compare as equal exactly when they are equal in digits and scale, and a word stands in it
for its integer. -/
theorem order_is_order_of_rationals :
    (∀ first second : Decimal, compare first second = compare first.toRat second.toRat) ∧
    (∀ first second : Decimal,
      (compare first second).isLE = true ∨ (compare second first).isLE = true) ∧
    (∀ first second : Decimal, (compare first second).isLE = true →
      (compare second first).isLE = true → first = second) ∧
    (∀ first second third : Decimal, (compare first second).isLE = true →
      (compare second third).isLE = true → (compare first third).isLE = true) ∧
    (∀ first second : Decimal, compare first second = .eq ↔ (first == second) = true) ∧
    (∀ (number : Decimal) (word : Int64),
      number.orderWord word = compare number.toRat word.toInt ∧
      (number.equalsWord word = true ↔ number.toRat = word.toInt)) := by
  refine ⟨compare_eq_compare_toRat, ?_, ?_, ?_, ?_, ?_⟩
  · intro first second
    rw [isLE_compare_iff, isLE_compare_iff]
    exact le_total first.toRat second.toRat
  · intro first second below above
    rw [isLE_compare_iff] at below above
    exact toRat_injective (le_antisymm below above)
  · intro first second third below below'
    rw [isLE_compare_iff] at below below' ⊢
    exact le_trans below below'
  · intro first second
    rw [compare_eq_compare_toRat, compare_eq_iff_eq, toRat_injective.eq_iff, beq_iff_eq]
  · exact fun number word => ⟨orderWord_eq_compare number word, equalsWord_iff⟩

/-- Numbers of three scales, the greatest of which is a word. -/
theorem order_is_order_of_rationals_across_scales :
    ∃ least middle greatest : Decimal,
      least.toRat = -1 / 5 ∧ middle.toRat = 999 / 100 ∧ greatest.toRat = 10 ∧
      (compare least middle).isLE = true ∧ (compare middle greatest).isLE = true ∧
      (compare least greatest).isLE = true ∧ middle.orderWord 10 = .lt := by
  obtain ⟨_, _, _, transitive, _, words⟩ := order_is_order_of_rationals
  let least : Decimal := ⟨-2, 1, by decide, by decide⟩
  let middle : Decimal := ⟨999, 2, by decide, by decide⟩
  let greatest : Decimal := ⟨1, -1, by decide, by decide⟩
  have below : (compare least middle).isLE = true := by decide
  have below' : (compare middle greatest).isLE = true := by decide
  have middle_rat : middle.toRat = 999 / 100 := by norm_num [toRat, middle]
  have greatest_rat : greatest.toRat = 10 := (words greatest 10).2.1 (by decide +kernel)
  refine ⟨least, middle, greatest, by norm_num [toRat, least], middle_rat, greatest_rat,
    below, below', transitive least middle greatest below below', ?_⟩
  rw [(words middle 10).1, middle_rat, show (10 : Int64).toInt = 10 from rfl]
  exact compare_lt_iff_lt.2 (by norm_num)

end PolicyBuiltins.Decimal
