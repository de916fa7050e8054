/-
# The rational that a decimal denotes

A decimal denotes `digits * 10 ^ (-scale)`.  Bringing digits and a scale to normal form
keeps this rational, and no two decimals denote the same one.  The scale of the normal
form therefore belongs to the rational: it is the one scale at which its digits are an
integer that does not end in zero.  Zero has no such digits.
-/

import Mathlib.Algebra.Order.Field.Power
import Mathlib.Algebra.Order.Ring.Rat
import Mathlib.Data.Int.CharZero
import Mathlib.Tactic.FieldSimp
import PolicyBuiltins.Decimal.Lemmas

namespace PolicyBuiltins.Decimal

/-- The rational number that a decimal denotes. -/
def toRat (number : Decimal) : ℚ :=
  number.digits * (10 : ℚ) ^ (-number.scale)

/-- A rational is an integer without a zero at its end, at this scale. -/
def HasNormalScale (value : ℚ) (scale : ℤ) : Prop :=
  ∃ digits : ℤ, ¬ (10 : ℤ) ∣ digits ∧ value = digits * (10 : ℚ) ^ (-scale)

theorem ten_zpow_ne_zero (exponent : ℤ) : (10 : ℚ) ^ exponent ≠ 0 :=
  zpow_ne_zero exponent (by norm_num)

/-- A power of ten with a natural exponent, among the rationals. -/
theorem cast_ten_pow_toNat {exponent : ℤ} (nonneg : 0 ≤ exponent) :
    ((10 ^ exponent.toNat : Nat) : ℚ) = (10 : ℚ) ^ exponent := by
  conv_rhs => rw [← Int.toNat_of_nonneg nonneg]
  rw [zpow_natCast]
  push_cast
  rfl

/-- The unit of a scale in units of a higher one. -/
theorem ten_zpow_neg_eq_mul {scale scale' : ℤ} (lower : scale ≤ scale') :
    (10 : ℚ) ^ (-scale) = (10 ^ (scale' - scale).toNat : Nat) * (10 : ℚ) ^ (-scale') := by
  rw [cast_ten_pow_toNat (by omega), ← zpow_add₀ (by norm_num)]
  congr 1
  omega

/-- The normal form of digits and a scale denotes what these denote. -/
theorem toRat_ofParts (digits scale : ℤ) :
    (ofParts digits scale).toRat = digits * (10 : ℚ) ^ (-scale) := by
  by_cases zero_digits : digits = 0
  · simp [ofParts, zero, toRat, zero_digits]
  · have lowered := scale_ofParts_le zero_digits scale
    have kept := digits_ofParts_mul_pow digits scale
    generalize ofParts digits scale = number at lowered kept
    rw [toRat, ten_zpow_neg_eq_mul lowered, ← mul_assoc]
    congr 1
    exact_mod_cast kept

theorem toRat_ofInt (number : ℤ) : (ofInt number).toRat = number := by
  rw [ofInt, toRat_ofParts, neg_zero, zpow_zero, mul_one]

theorem toRat_eq_zero_iff {number : Decimal} : number.toRat = 0 ↔ number.digits = 0 := by
  rw [toRat, mul_eq_zero, or_iff_left (ten_zpow_ne_zero _), Int.cast_eq_zero]

/-- The magnitude of a decimal. -/
theorem abs_toRat (number : Decimal) :
    |number.toRat| = (number.digits.natAbs : ℚ) * (10 : ℚ) ^ (-number.scale) := by
  rw [toRat, abs_mul, abs_of_pos (zpow_pos (by norm_num : (0 : ℚ) < 10) _),
    Nat.cast_natAbs, Int.cast_abs]

/-- Digits other than zero do not end in zero. -/
theorem not_ten_dvd_digits {number : Decimal} (nonzero : number.digits ≠ 0) :
    ¬ (10 : ℤ) ∣ number.digits := by
  intro divides
  exact number.last_digit_ne_zero nonzero (Int.emod_eq_zero_of_dvd divides)

/-! ## One normal form for each rational -/

/-- Digits at a lower scale are the digits at a higher one less a power of ten. -/
theorem digits_eq_mul_pow {digits digits' scale scale' : ℤ} (lower : scale ≤ scale')
    (same : (digits : ℚ) * (10 : ℚ) ^ (-scale) = digits' * (10 : ℚ) ^ (-scale')) :
    digits' = digits * (10 ^ (scale' - scale).toNat : Nat) := by
  rw [ten_zpow_neg_eq_mul lower, ← mul_assoc] at same
  have cancelled := mul_right_cancel₀ (ten_zpow_ne_zero _) same
  exact_mod_cast cancelled.symm

theorem scale_le_of_not_ten_dvd {digits digits' scale scale' : ℤ}
    (settled : ¬ (10 : ℤ) ∣ digits')
    (same : (digits : ℚ) * (10 : ℚ) ^ (-scale) = digits' * (10 : ℚ) ^ (-scale')) :
    scale' ≤ scale := by
  apply Int.le_of_not_gt
  intro lower
  have shifted := digits_eq_mul_pow (Int.le_of_lt lower) same
  obtain ⟨count, more⟩ : ∃ count, (scale' - scale).toNat = count + 1 :=
    ⟨(scale' - scale).toNat - 1, by omega⟩
  rw [more, Nat.pow_succ, Nat.cast_mul, ← mul_assoc] at shifted
  exact settled ⟨digits * (10 ^ count : Nat), by rw [shifted, mul_comm]; rfl⟩

/-- A rational has one normal scale at most. -/
theorem HasNormalScale.unique {value : ℚ} {scale scale' : ℤ}
    (normal : HasNormalScale value scale) (normal' : HasNormalScale value scale') :
    scale = scale' := by
  obtain ⟨digits, settled, value_eq⟩ := normal
  obtain ⟨digits', settled', value_eq'⟩ := normal'
  rw [value_eq] at value_eq'
  exact Int.le_antisymm (scale_le_of_not_ten_dvd settled value_eq'.symm)
    (scale_le_of_not_ten_dvd settled' value_eq')

theorem hasNormalScale_toRat {number : Decimal} (nonzero : number.digits ≠ 0) :
    HasNormalScale number.toRat number.scale :=
  ⟨number.digits, not_ten_dvd_digits nonzero, rfl⟩

/-- The scale of a decimal is zero, or the normal scale of its rational. -/
theorem scale_eq_zero_or_hasNormalScale (number : Decimal) :
    number.scale = 0 ∨ HasNormalScale number.toRat number.scale := by
  by_cases zero_digits : number.digits = 0
  · exact Or.inl (number.scale_of_zero zero_digits)
  · exact Or.inr (hasNormalScale_toRat zero_digits)

/-- The normal scale of a decimal other than zero is its own. -/
theorem hasNormalScale_toRat_iff {number : Decimal} {scale : ℤ} :
    HasNormalScale number.toRat scale ↔ number.digits ≠ 0 ∧ number.scale = scale := by
  constructor
  · intro normal
    have nonzero : number.digits ≠ 0 := by
      intro zero_digits
      obtain ⟨digits, settled, value_eq⟩ := normal
      rw [toRat_eq_zero_iff.2 zero_digits] at value_eq
      have zero_product := mul_eq_zero.1 value_eq.symm
      rw [or_iff_left (ten_zpow_ne_zero _), Int.cast_eq_zero] at zero_product
      exact settled (zero_product ▸ Int.dvd_zero 10)
    exact ⟨nonzero, (hasNormalScale_toRat nonzero).unique normal⟩
  · rintro ⟨nonzero, rfl⟩
    exact hasNormalScale_toRat nonzero

/-- A bound on the normal scale of the rational, where it has one, is a bound on the
scale. -/
theorem abs_scale_le_iff {number : Decimal} {bound : ℤ} (nonneg : 0 ≤ bound) :
    |number.scale| ≤ bound ↔
      number.toRat = 0 ∨ ∃ scale, HasNormalScale number.toRat scale ∧ |scale| ≤ bound := by
  by_cases zero_digits : number.digits = 0
  · rw [number.scale_of_zero zero_digits, abs_zero]
    exact iff_of_true nonneg (Or.inl (toRat_eq_zero_iff.2 zero_digits))
  · rw [or_iff_right (mt toRat_eq_zero_iff.1 zero_digits)]
    constructor
    · intro bounded
      exact ⟨number.scale, hasNormalScale_toRat zero_digits, bounded⟩
    · intro found
      obtain ⟨scale, normal, bounded⟩ := found
      rwa [(hasNormalScale_toRat_iff.1 normal).2]

/-- Decimals that denote the same rational are the same. -/
theorem toRat_injective : Function.Injective toRat := by
  intro first second same
  by_cases zero_digits : first.digits = 0
  · have zero_digits' : second.digits = 0 := by
      rw [← toRat_eq_zero_iff, ← same, toRat_eq_zero_iff]
      exact zero_digits
    ext
    · rw [zero_digits, zero_digits']
    · rw [first.scale_of_zero zero_digits, second.scale_of_zero zero_digits']
  · obtain ⟨-, scales⟩ :=
      hasNormalScale_toRat_iff.1 (same ▸ hasNormalScale_toRat zero_digits)
    ext
    · rw [toRat, toRat, scales] at same
      exact_mod_cast mul_right_cancel₀ (ten_zpow_ne_zero _) same
    · exact scales.symm

/-- A decimal denotes what digits and a scale denote exactly when it is their normal form. -/
theorem toRat_eq_iff_eq_ofParts {number : Decimal} {digits scale : ℤ} :
    number.toRat = digits * (10 : ℚ) ^ (-scale) ↔ number = ofParts digits scale := by
  rw [← toRat_ofParts, toRat_injective.eq_iff]

theorem toRat_eq_intCast_iff {number : Decimal} {integer : ℤ} :
    number.toRat = integer ↔ number = ofInt integer := by
  rw [← toRat_ofInt, toRat_injective.eq_iff]

theorem toRat_eq_truncate {number : Decimal} (whole : number.isInteger = true) :
    number.toRat = number.truncate :=
  toRat_eq_intCast_iff.2 (ofInt_truncate whole).symm

/-- The sign of a scale tells whether the rational is an integer. -/
theorem isInteger_iff_exists_int {number : Decimal} :
    number.isInteger = true ↔ ∃ integer : ℤ, number.toRat = integer := by
  constructor
  · intro whole
    exact ⟨number.truncate, toRat_eq_truncate whole⟩
  · rintro ⟨integer, value_eq⟩
    rw [toRat_eq_intCast_iff.1 value_eq]
    exact isInteger_ofInt integer

end PolicyBuiltins.Decimal
