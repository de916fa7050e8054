/-
# Fixed counts of fraction digits

A number written with a chosen count of fraction digits is brought to a multiple of the unit
of the last digit.  It is the nearest one, and where two are equally near it is the one of
them that is even.  The sign is set aside while the magnitude is rounded, which changes
neither the distances nor which of two neighbours is even; what is written has a minus only
if it is not zero.
-/

import Mathlib.Algebra.Order.Ring.Abs
import Mathlib.Tactic.Linarith
import PolicyBuiltins.Proofs.Decimal.Exactness

namespace PolicyBuiltins.Decimal

/-! ## The nearest multiple of a unit -/

/-- The multiple of a unit that is nearest to a number, the even one where two are equally
near. -/
structure IsNearestMultiple (number unit : ℚ) (count : ℤ) : Prop where
  nearest : ∀ other : ℤ, |number - count * unit| ≤ |number - other * unit|
  even_of_tie : ∀ other : ℤ, other ≠ count →
    |number - count * unit| = |number - other * unit| → Even count

/-- Multiples that differ are at least a unit apart. -/
theorem unit_le_abs_sub {unit : ℚ} (unit_pos : 0 < unit) {count other : ℤ}
    (differ : other ≠ count) : unit ≤ |count * unit - other * unit| := by
  have apart : (1 : ℚ) ≤ |((count - other : ℤ) : ℚ)| := by
    have nonzero : count - other ≠ 0 := sub_ne_zero.2 (Ne.symm differ)
    exact_mod_cast Int.one_le_abs nonzero
  rw [← sub_mul, abs_mul, abs_of_pos unit_pos, ← Int.cast_sub]
  exact le_mul_of_one_le_left (le_of_lt unit_pos) apart

/-- A multiple within half a unit is the nearest, if it is even where it is half a unit
away. -/
theorem isNearestMultiple_of_half {number unit : ℚ} {count : ℤ} (unit_pos : 0 < unit)
    (near : 2 * |number - count * unit| ≤ unit)
    (even_of_half : 2 * |number - count * unit| = unit → Even count) :
    IsNearestMultiple number unit count := by
  have spread (other : ℤ) (differ : other ≠ count) :
      unit ≤ |number - count * unit| + |number - other * unit| := by
    calc unit ≤ |count * unit - other * unit| := unit_le_abs_sub unit_pos differ
      _ ≤ |count * unit - number| + |number - other * unit| := abs_sub_le _ _ _
      _ = |number - count * unit| + |number - other * unit| := by
        rw [abs_sub_comm number (count * unit)]
  constructor
  · intro other
    by_cases same : other = count
    · rw [same]
    · have apart := spread other same
      linarith
  · intro other differ tie
    have apart := spread other differ
    exact even_of_half (by linarith)

/-- One multiple at most is the nearest.  Two of them would be even, and the multiple half way
between them would be nearer. -/
theorem IsNearestMultiple.unique {number unit : ℚ} (unit_pos : 0 < unit) {count count' : ℤ}
    (rounded : IsNearestMultiple number unit count)
    (rounded' : IsNearestMultiple number unit count') : count = count' := by
  by_contra differ
  have tie := le_antisymm (rounded.nearest count') (rounded'.nearest count)
  obtain ⟨half, count_eq⟩ := rounded.even_of_tie count' (Ne.symm differ) tie
  obtain ⟨half', count_eq'⟩ := rounded'.even_of_tie count differ tie.symm
  rcases abs_eq_abs.1 tie with same | opposite
  · have same := mul_right_cancel₀ (ne_of_gt unit_pos) (sub_right_injective same)
    exact differ (by exact_mod_cast same)
  · have between : number - (half + half' : ℤ) * unit = 0 := by
      rw [count_eq, count_eq'] at opposite
      push_cast at opposite ⊢
      linarith
    have exact_count := rounded.nearest (half + half')
    have exact_count' := rounded'.nearest (half + half')
    rw [between, abs_zero, abs_nonpos_iff] at exact_count exact_count'
    have same := mul_right_cancel₀ (ne_of_gt unit_pos)
      (sub_right_injective (exact_count.trans exact_count'.symm))
    exact differ (by exact_mod_cast same)

/-- Changing the sign of the number changes the sign of the multiple. -/
theorem IsNearestMultiple.neg {number unit : ℚ} {count : ℤ}
    (rounded : IsNearestMultiple number unit count) : IsNearestMultiple (-number) unit (-count) := by
  have mirrored (count : ℤ) : |-number - count * unit| = |number - (-count : ℤ) * unit| := by
    rw [← abs_neg]
    congr 1
    push_cast
    ring
  constructor
  · intro other
    rw [mirrored, mirrored, neg_neg]
    exact rounded.nearest (-other)
  · intro other differ tie
    rw [mirrored, mirrored, neg_neg] at tie
    exact (rounded.even_of_tie (-other) (fun same => differ (by omega)) tie).neg

/-! ## Rounding a magnitude -/

section
variable (numerator : ℕ) {denominator : ℕ} (positive : 0 < denominator)
include positive

/-- The rounded quotient is half a unit away at most. -/
theorem two_mul_abs_sub_roundHalfEven_le :
    2 * |(numerator - roundHalfEven numerator denominator * denominator : ℚ)| ≤ denominator := by
  have above : (2 * (roundHalfEven numerator denominator * denominator) : ℚ) ≤
      2 * numerator + denominator := by
    exact_mod_cast two_mul_roundHalfEven_mul_le numerator denominator
  have below : (2 * numerator : ℚ) ≤
      2 * (roundHalfEven numerator denominator * denominator) + denominator := by
    exact_mod_cast @two_mul_le_roundHalfEven_mul numerator denominator positive
  have near : |(numerator - roundHalfEven numerator denominator * denominator : ℚ)| ≤
      denominator / 2 := abs_le.2 ⟨by linarith, by linarith⟩
  linarith

/-- Half a unit away, above or below, the rounded quotient is even. -/
theorem even_roundHalfEven
    (half : 2 * |(numerator - roundHalfEven numerator denominator * denominator : ℚ)| =
      denominator) : Even (roundHalfEven numerator denominator) := by
  refine Nat.even_iff.2 (roundHalfEven_even_of_half positive ?_)
  generalize roundHalfEven numerator denominator = rounded at half
  rcases le_total 0 (numerator - rounded * denominator : ℚ) with nonneg | nonpos
  · rw [abs_of_nonneg nonneg] at half
    have tie : (2 * numerator : ℚ) = 2 * (rounded * denominator) + denominator := by linarith
    exact Or.inl (by exact_mod_cast tie)
  · rw [abs_of_nonpos nonpos] at half
    have tie : (2 * numerator + denominator : ℚ) = 2 * (rounded * denominator) := by linarith
    exact Or.inr (by exact_mod_cast tie)

/-- The rounded quotient, in the unit that the denominator makes up. -/
theorem isNearestMultiple_roundHalfEven {part : ℚ} (part_pos : 0 < part) :
    IsNearestMultiple (numerator * part) (denominator * part)
      (roundHalfEven numerator denominator) := by
  have near := two_mul_abs_sub_roundHalfEven_le numerator positive
  have even_of_half := even_roundHalfEven numerator positive
  generalize roundHalfEven numerator denominator = rounded at near even_of_half
  have distance : 2 * |numerator * part - ((rounded : ℤ) : ℚ) * (denominator * part)| =
      2 * |(numerator - rounded * denominator : ℚ)| * part := by
    rw [mul_assoc, ← abs_of_pos part_pos, ← abs_mul, abs_of_pos part_pos, Int.cast_natCast,
      sub_mul, mul_assoc (rounded : ℚ)]
  apply isNearestMultiple_of_half (mul_pos (Nat.cast_pos.2 positive) part_pos)
  · rw [distance]
    exact mul_le_mul_of_nonneg_right near (le_of_lt part_pos)
  · rw [distance]
    intro half
    exact (Int.even_coe_nat _).2 (even_of_half (mul_right_cancel₀ (ne_of_gt part_pos) half))

end

theorem isNearestMultiple_self {unit : ℚ} (unit_pos : 0 < unit) (count : ℤ) :
    IsNearestMultiple (count * unit) unit count := by
  apply isNearestMultiple_of_half unit_pos
  · rw [sub_self, abs_zero, mul_zero]
    exact le_of_lt unit_pos
  · rw [sub_self, abs_zero, mul_zero]
    exact fun zero => absurd zero (ne_of_lt unit_pos)

variable (number : Decimal) (places : ℕ)

theorem isNearestMultiple_unitsAt :
    IsNearestMultiple |number.toRat| ((10 : ℚ) ^ (-(places : ℤ))) (number.unitsAt places) := by
  rw [abs_toRat, unitsAt]
  split
  next covered =>
    have exact_eq : (number.digits.natAbs : ℚ) * (10 : ℚ) ^ (-number.scale) =
        ((number.digits.natAbs * Nat.pow 10 (places - number.scale).toNat : ℕ) : ℤ) *
          (10 : ℚ) ^ (-(places : ℤ)) := by
      rw [ten_zpow_neg_eq_mul covered, ← mul_assoc, Nat.pow_eq, Int.cast_natCast, Nat.cast_mul]
    rw [exact_eq]
    exact isNearestMultiple_self (zpow_pos (by norm_num) _) _
  next finer =>
    rw [ten_zpow_neg_eq_mul (le_of_lt (not_le.1 finer))]
    exact isNearestMultiple_roundHalfEven _ (Nat.pow_pos (by decide))
      (zpow_pos (by norm_num) _)

/-- The number in units of `10 ^ (-places)`, rounded. -/
def signedUnitsAt : ℤ :=
  if number.isNegative then -number.unitsAt places else number.unitsAt places

theorem isNearestMultiple_signedUnitsAt :
    IsNearestMultiple number.toRat ((10 : ℚ) ^ (-(places : ℤ))) (number.signedUnitsAt places) := by
  have unit_pos : (0 : ℚ) < 10 ^ (-number.scale) := zpow_pos (by norm_num) _
  have rounded := isNearestMultiple_unitsAt number places
  rw [signedUnitsAt]
  cases sign : number.isNegative with
  | true =>
    have negative : number.digits < 0 := of_decide_eq_true sign
    have below : number.toRat ≤ 0 :=
      mul_nonpos_of_nonpos_of_nonneg (Int.cast_nonpos.2 (le_of_lt negative)) (le_of_lt unit_pos)
    rw [abs_of_nonpos below] at rounded
    rw [if_pos rfl]
    simpa only [neg_neg] using rounded.neg
  | false =>
    have nonneg : 0 ≤ number.digits := not_lt.1 (of_decide_eq_false sign)
    have above : 0 ≤ number.toRat :=
      mul_nonneg (Int.cast_nonneg nonneg) (le_of_lt unit_pos)
    rw [abs_of_nonneg above] at rounded
    rw [if_neg Bool.false_ne_true]
    exact rounded

theorem isNearestMultiple_iff {count : ℤ} :
    IsNearestMultiple number.toRat ((10 : ℚ) ^ (-(places : ℤ))) count ↔
      count = number.signedUnitsAt places := by
  have rounded := isNearestMultiple_signedUnitsAt number places
  constructor
  · exact fun nearest => nearest.unique (zpow_pos (by norm_num) _) rounded
  · rintro rfl
    exact rounded

/-- What is written has a minus exactly if it is below zero. -/
theorem signedUnitsAt_neg_iff :
    number.signedUnitsAt places < 0 ↔
      (number.isNegative && number.unitsAt places != 0) = true := by
  rw [signedUnitsAt, Bool.and_eq_true, bne_iff_ne]
  split <;> grind

/-! ## The text -/

/-- What digits denote around a point, in units of the last of them. -/
theorem Literal.toRat_of_value {whole fraction : List Char} {units : ℕ}
    (value_eq : Numeral.value 10 (whole ++ fraction) = units) (negative : Bool) :
    Literal.toRat { negative, whole, fraction, exponent := 0 } =
      (if negative then -units else units : ℤ) * (10 : ℚ) ^ (-(fraction.length : ℤ)) := by
  rw [← Literal.toRat_exact, Literal.exact, toRat_ofParts, Literal.digits, Literal.scale,
    value_eq, Int.sub_zero]

/-- The sign is that of the rounded number, and the digits are its magnitude. -/
theorem exists_fixedText_fixed :
    ∃ whole fraction,
      FixedText (decide (number.signedUnitsAt places < 0)) places whole fraction
        (number.fixed places) ∧
      Literal.toRat
          { negative := decide (number.signedUnitsAt places < 0), whole, fraction,
            exponent := 0 } =
        number.signedUnitsAt places * (10 : ℚ) ^ (-(places : ℤ)) := by
  obtain ⟨whole, fraction, unsigned, value_eq⟩ :=
    exists_fixedText_pointed (number.unitsAt places) places
  have sign_eq : decide (number.signedUnitsAt places < 0) =
      (number.isNegative && number.unitsAt places != 0) := by
    rw [Bool.decide_congr (signedUnitsAt_neg_iff number places), Bool.decide_eq_true]
  refine ⟨whole, fraction, { unsigned with text_eq := ?_ }, ?_⟩
  · rw [fixed, sign_eq, unsigned.text_eq]
    rfl
  · rw [Literal.toRat_of_value value_eq, unsigned.length_fraction, signedUnitsAt]
    congr 2
    grind

end PolicyBuiltins.Decimal
