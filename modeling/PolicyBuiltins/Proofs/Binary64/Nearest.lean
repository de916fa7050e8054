/-
# The binary64 number nearest to a decimal

The exponent that rounding starts from is the binary logarithm of the exact value, and the
mantissa is the rounded quotient by a power of two.  The largest mantissa and the largest
exponent therefore meet infinity exactly in the middle of the gap above the greatest finite
number: the decimals of a magnitude below `2 ^ 1024 - 2 ^ 970` have a finite number, and no
others do.
-/

import Mathlib.Algebra.Order.Field.Power
import Mathlib.Algebra.Order.Floor.Semifield
import Mathlib.Data.Int.Log
import Mathlib.Data.Rat.Floor
import Mathlib.Tactic.Linarith
import Mathlib.Tactic.NormNum
import Mathlib.Tactic.Positivity
import Mathlib.Tactic.Ring
import PolicyBuiltins.Binary64.Basic
import PolicyBuiltins.Proofs.Decimal.Rational

namespace PolicyBuiltins.Binary64

/-! ## Logarithms and powers -/

section
variable {base numerator denominator : ℕ}

/-- The powers that enclose a number fix its logarithm. -/
theorem int_log_eq {number : ℚ} {exponent : ℤ} (large : 1 < base)
    (lower : (base : ℚ) ^ exponent ≤ number) (upper : number < (base : ℚ) ^ (exponent + 1)) :
    Int.log base number = exponent := by
  have base_pos : (0 : ℚ) < base := by exact_mod_cast Nat.lt_trans Nat.zero_lt_one large
  have positive : 0 < number := lt_of_lt_of_le (zpow_pos base_pos exponent) lower
  have at_least := (Int.zpow_le_iff_le_log large positive).1 lower
  have below := (Int.lt_zpow_iff_log_lt large positive).1 upper
  omega

/-- A quotient below one has the logarithm of its turned quotient, taken from above. -/
theorem int_log_div_of_lt (large : 1 < base) (positive : 0 < numerator)
    (below : numerator < denominator) :
    Int.log base ((numerator : ℚ) / denominator) =
      -(Nat.log base ((denominator - 1) / numerator) + 1 : ℤ) := by
  have base_pos : (0 : ℚ) < base := by exact_mod_cast Nat.lt_trans Nat.zero_lt_one large
  have denominator_pos : (0 : ℚ) < denominator := by exact_mod_cast Nat.zero_lt_of_lt below
  generalize quotient_eq : (denominator - 1) / numerator = quotient
  have quotient_pos : 0 < quotient := by
    rw [← quotient_eq]
    exact Nat.div_pos (by omega) positive
  have whole := Nat.div_mul_le_self (denominator - 1) numerator
  have part := Nat.lt_div_mul_add positive (a := denominator - 1)
  rw [quotient_eq] at whole part
  have lower := Nat.pow_log_le_self base (Nat.ne_of_gt quotient_pos)
  have upper := Nat.lt_pow_succ_log_self large quotient
  generalize Nat.log base quotient = level at lower upper
  apply int_log_eq large
  · rw [show (-(level + 1 : ℤ)) = -((level + 1 : ℕ) : ℤ) by push_cast; rfl, zpow_neg,
      zpow_natCast, inv_le_comm₀ (by positivity) (by positivity), inv_div,
      div_le_iff₀ (by exact_mod_cast positive)]
    have step : denominator ≤ base ^ (level + 1) * numerator := by
      calc denominator ≤ (quotient + 1) * numerator := by rw [Nat.add_mul]; omega
        _ ≤ base ^ (level + 1) * numerator := Nat.mul_le_mul_right _ upper
    exact_mod_cast step
  · rw [show (-(level + 1 : ℤ)) + 1 = -((level : ℕ) : ℤ) by omega, zpow_neg, zpow_natCast,
      div_lt_iff₀ denominator_pos, inv_mul_eq_div, lt_div_iff₀ (by positivity)]
    have step : numerator * base ^ level < denominator := by
      calc numerator * base ^ level ≤ numerator * quotient := Nat.mul_le_mul_left _ lower
        _ ≤ denominator - 1 := by rw [Nat.mul_comm]; exact whole
        _ < denominator := by omega
    exact_mod_cast step

/-- A quotient of at least one has the logarithm of its whole part. -/
theorem int_log_div_of_le (denominator_pos : 0 < denominator) (above : denominator ≤ numerator) :
    Int.log base ((numerator : ℚ) / denominator) =
      Nat.log base (numerator / denominator) := by
  have one_le : (1 : ℚ) ≤ (numerator : ℚ) / denominator := by
    rw [one_le_div (by exact_mod_cast denominator_pos)]
    exact_mod_cast above
  rw [Int.log_of_one_le_right base one_le, Nat.floor_div_eq_div]

theorem floorLog2_eq (positive : 0 < numerator) (denominator_pos : 0 < denominator) :
    floorLog2 numerator denominator = Int.log 2 ((numerator : ℚ) / denominator) := by
  simp only [floorLog2, Nat.log2_eq_log_two]
  split
  next above => rw [int_log_div_of_le denominator_pos above]
  next below => rw [int_log_div_of_lt (by omega) positive (by omega)]

/-- Dividing by a power divides the quotient. -/
theorem scaledDown_div {radix : ℕ} (radix_pos : 0 < radix) (exponent : ℤ) :
    ((scaledDown radix numerator denominator exponent).1 : ℚ) /
        (scaledDown radix numerator denominator exponent).2 =
      (numerator : ℚ) / denominator / (radix : ℚ) ^ exponent := by
  have radix_ne_zero : (radix : ℚ) ≠ 0 := by exact_mod_cast Nat.ne_of_gt radix_pos
  have split_exponent : exponent = exponent.toNat - (-exponent).toNat := by omega
  simp only [scaledDown, Nat.pow_eq, Nat.cast_mul, Nat.cast_pow]
  conv_rhs => rw [split_exponent, zpow_sub₀ radix_ne_zero, zpow_natCast, zpow_natCast]
  rw [div_div_eq_mul_div, div_mul_eq_mul_div, div_div]

theorem scaledDown_snd_pos {radix : ℕ} (radix_pos : 0 < radix) (denominator_pos : 0 < denominator)
    (exponent : ℤ) : 0 < (scaledDown radix numerator denominator exponent).2 :=
  Nat.mul_pos denominator_pos (Nat.pow_pos radix_pos)

theorem scaledDown_fst_pos {radix : ℕ} (radix_pos : 0 < radix) (positive : 0 < numerator)
    (exponent : ℤ) : 0 < (scaledDown radix numerator denominator exponent).1 :=
  Nat.mul_pos positive (Nat.pow_pos radix_pos)

end

/-! ## Rounding -/

/-- A natural number that a rational, counted in units, rounds to.  An even number is reached
from half a unit below it on. -/
structure IsRounded (number unit : ℚ) (rounded : ℕ) : Prop where
  le : ∀ count : ℕ, count * unit ≤ number → count ≤ rounded
  ge : ∀ count : ℕ, number ≤ count * unit → rounded ≤ count
  even_le_iff : ∀ count : ℕ, count % 2 = 0 →
    (count ≤ rounded ↔ ((count : ℚ) - 1 / 2) * unit ≤ number)

section
variable {numerator denominator : ℕ}

theorem isRounded_roundHalfEven {radix : ℕ} (radix_pos : 0 < radix)
    (denominator_pos : 0 < denominator) (exponent : ℤ) :
    IsRounded ((numerator : ℚ) / denominator) ((radix : ℚ) ^ exponent)
      (roundHalfEven (scaledDown radix numerator denominator exponent).1
        (scaledDown radix numerator denominator exponent).2) := by
  have unit_pos : (0 : ℚ) < (radix : ℚ) ^ exponent :=
    zpow_pos (by exact_mod_cast radix_pos) exponent
  have quotient_eq : (numerator : ℚ) / denominator =
      ((scaledDown radix numerator denominator exponent).1 : ℚ) /
        (scaledDown radix numerator denominator exponent).2 * (radix : ℚ) ^ exponent := by
    rw [scaledDown_div radix_pos, div_mul_cancel₀ _ (ne_of_gt unit_pos)]
  have below_pos := @scaledDown_snd_pos numerator _ _ radix_pos denominator_pos exponent
  generalize (scaledDown radix numerator denominator exponent).1 = above at quotient_eq
  generalize (scaledDown radix numerator denominator exponent).2 = below at quotient_eq below_pos
  have below_pos' : (0 : ℚ) < below := by exact_mod_cast below_pos
  rw [quotient_eq]
  constructor
  · intro count reached
    rw [mul_le_mul_iff_left₀ unit_pos, le_div_iff₀ below_pos'] at reached
    exact le_roundHalfEven below_pos (by exact_mod_cast reached)
  · intro count bounded
    rw [mul_le_mul_iff_left₀ unit_pos, div_le_iff₀ below_pos'] at bounded
    exact roundHalfEven_le below_pos (by exact_mod_cast bounded)
  · intro count even
    rw [even_le_roundHalfEven_iff below_pos even, mul_le_mul_iff_left₀ unit_pos,
      le_div_iff₀ below_pos']
    constructor
    · intro half
      have half : (2 : ℚ) * (count * below) ≤ 2 * above + below := by exact_mod_cast half
      linarith
    · intro half
      have half : (2 : ℚ) * (count * below) ≤ 2 * above + below := by linarith
      exact_mod_cast half

/-! ## Finite and infinite -/

/-- The middle of the gap between the greatest finite number and the next power of two. -/
def infinityBound : ℚ := 2 ^ 1024 - 2 ^ 970

theorem infinityBound_eq : infinityBound = (2 ^ 53 - 1 / 2) * (2 : ℚ) ^ (971 : ℤ) := by
  have top : (2 : ℚ) ^ 1024 = 2 ^ 53 * 2 ^ 971 := by rw [← pow_add]
  have half : (2 : ℚ) ^ 971 = 2 * 2 ^ 970 := by rw [← pow_succ']
  rw [infinityBound, top, show (2 : ℚ) ^ (971 : ℤ) = 2 ^ 971 from zpow_natCast 2 971, half]
  generalize (2 : ℚ) ^ 970 = step
  ring

theorem infinityBound_le : infinityBound ≤ (2 : ℚ) ^ (1024 : ℤ) := by
  rw [infinityBound, show (2 : ℚ) ^ (1024 : ℤ) = 2 ^ 1024 from zpow_natCast 2 1024]
  exact sub_le_self _ (pow_nonneg (by norm_num) 970)

theorem lt_infinityBound : (2 : ℚ) ^ (1023 : ℤ) < infinityBound := by
  rw [infinityBound_eq, show (1023 : ℤ) = 52 + 971 from rfl, zpow_add₀ (by norm_num)]
  exact mul_lt_mul_of_pos_right (by norm_num) (zpow_pos (by norm_num) _)

theorem one_lt_infinityBound : 1 < infinityBound :=
  lt_trans (one_lt_zpow₀ (by norm_num) (by norm_num)) lt_infinityBound

theorem infinityBound_le_ten_pow : infinityBound ≤ (10 : ℚ) ^ (309 : ℤ) := by
  refine le_trans infinityBound_le ?_
  have powers : 2 ^ 1024 ≤ 10 ^ 309 := by decide +kernel
  rw [show (2 : ℚ) ^ (1024 : ℤ) = 2 ^ 1024 from zpow_natCast 2 1024,
    show (10 : ℚ) ^ (309 : ℤ) = 10 ^ 309 from zpow_natCast 10 309]
  exact_mod_cast powers

/-- What the mantissa and the exponent of a finite number keep to. -/
structure IsFinite (mantissa : ℕ) (exponent : ℤ) : Prop where
  mantissa_le : mantissa ≤ 2 ^ 53
  le_exponent : -1074 ≤ exponent
  exponent_le : exponent ≤ 971

/-- How a magnitude stands for a rational as far as size goes: infinity for those from the
bound on, a finite number for all others, and zero for none of at least one. -/
inductive StandsFor (number : ℚ) : Magnitude → Prop
  | infinite (beyond : infinityBound ≤ number) : StandsFor number .infinite
  | finite {mantissa : ℕ} {exponent : ℤ} (below : number < infinityBound)
      (shape : IsFinite mantissa exponent) (nonzero : 1 ≤ number → mantissa ≠ 0) :
      StandsFor number (.finite mantissa exponent)

theorem isFinite_hiddenBit {exponent : ℤ} (least : -1074 ≤ exponent) (small : exponent ≤ 970) :
    IsFinite hiddenBit (exponent + 1) :=
  ⟨by decide, by omega, by omega⟩

theorem ofRounded_of_lt {rounded : ℕ} {exponent : ℤ} (below : rounded < 2 ^ 53)
    (small : exponent ≤ 971) : Magnitude.ofRounded rounded exponent = .finite rounded exponent := by
  have no_carry : rounded ≠ 2 * hiddenBit := by
    simp only [hiddenBit]
    omega
  simp only [Magnitude.ofRounded, no_carry, ↓reduceIte, maxExponent]
  rw [if_neg (by omega)]

theorem ofRounded_carry {exponent : ℤ} (small : exponent ≤ 970) :
    Magnitude.ofRounded (2 ^ 53) exponent = .finite hiddenBit (exponent + 1) := by
  have carry : 2 ^ 53 = 2 * hiddenBit := rfl
  simp only [Magnitude.ofRounded, carry, ↓reduceIte, maxExponent]
  rw [if_neg (by omega)]

theorem ofRounded_carry_greatest : Magnitude.ofRounded (2 ^ 53) 971 = .infinite :=
  rfl

theorem ofRounded_of_gt (rounded : ℕ) {exponent : ℤ} (great : 971 < exponent) :
    Magnitude.ofRounded rounded exponent = .infinite := by
  have beyond : maxExponent < if rounded = 2 * hiddenBit then exponent + 1 else exponent := by
    split
    · exact lt_trans great (lt_add_one exponent)
    · exact great
  simp only [Magnitude.ofRounded]
  rw [if_pos beyond]

/-- At the exponent that the logarithm gives, or above it, a mantissa has 53 bits at most. -/
theorem IsRounded.le_two_pow {number : ℚ} {rounded : ℕ} {exponent : ℤ}
    (round : IsRounded number ((2 : ℚ) ^ exponent) rounded)
    (coarse : Int.log 2 number - 52 ≤ exponent) : rounded ≤ 2 ^ 53 := by
  apply round.ge
  calc number ≤ (2 : ℚ) ^ (Int.log 2 number + 1) :=
        le_of_lt (Int.lt_zpow_succ_log_self Nat.one_lt_two number)
    _ ≤ 2 ^ (53 + exponent) := zpow_le_zpow_right₀ (by norm_num) (by omega)
    _ = (2 ^ 53 : ℕ) * 2 ^ exponent := by
      rw [zpow_add₀ (by norm_num)]
      norm_num

/-- A number that reaches the unit does not round to zero. -/
theorem IsRounded.ne_zero {number unit : ℚ} {rounded : ℕ} (round : IsRounded number unit rounded)
    (reached : unit ≤ number) : rounded ≠ 0 :=
  Nat.ne_of_gt (round.le 1 (by rwa [Nat.cast_one, one_mul]))

/-- A rational that is rounded at the exponent which its logarithm gives. -/
theorem standsFor_ofRounded {number : ℚ} {rounded : ℕ} {exponent : ℤ}
    (positive : 0 < number) (exponent_eq : exponent = max (Int.log 2 number - 52) (-1074))
    (round : IsRounded number ((2 : ℚ) ^ exponent) rounded) :
    StandsFor number (Magnitude.ofRounded rounded exponent) := by
  have lower : (2 : ℚ) ^ Int.log 2 number ≤ number :=
    Int.zpow_log_le_self Nat.one_lt_two positive
  have upper : number < (2 : ℚ) ^ (Int.log 2 number + 1) :=
    Int.lt_zpow_succ_log_self Nat.one_lt_two number
  have rounded_le : rounded ≤ 2 ^ 53 := round.le_two_pow (by omega)
  have log_of_one_le (at_least : 1 ≤ number) : 0 ≤ Int.log 2 number :=
    (Int.zpow_le_iff_le_log Nat.one_lt_two positive).1 (by simpa using at_least)
  generalize Int.log 2 number = level at lower upper exponent_eq log_of_one_le
  have power_mono {low high : ℤ} (ordered : low ≤ high) : (2 : ℚ) ^ low ≤ 2 ^ high :=
    zpow_le_zpow_right₀ (by norm_num) ordered
  have nonzero (at_least : 1 ≤ number) : rounded ≠ 0 := by
    have level_nonneg := log_of_one_le at_least
    exact round.ne_zero (le_trans (power_mono (by omega)) lower)
  -- Only at this level does the carry of the mantissa decide between finite and infinite.
  rcases lt_trichotomy level 1023 with small | great | beyond
  · have below : number < infinityBound := by
      calc number < (2 : ℚ) ^ (level + 1) := upper
        _ ≤ 2 ^ (1023 : ℤ) := power_mono (by omega)
        _ < infinityBound := lt_infinityBound
    rcases Nat.lt_or_eq_of_le rounded_le with no_carry | rfl
    · rw [ofRounded_of_lt no_carry (by omega)]
      exact .finite below ⟨rounded_le, by omega, by omega⟩ nonzero
    · rw [ofRounded_carry (by omega)]
      exact .finite below (isFinite_hiddenBit (by omega) (by omega)) fun _ => by decide
  · have exponent_eq : exponent = 971 := by omega
    subst exponent_eq
    have carries := round.even_le_iff (2 ^ 53) rfl
    rw [Nat.cast_pow, Nat.cast_ofNat, ← infinityBound_eq] at carries
    rcases Nat.lt_or_eq_of_le rounded_le with no_carry | rfl
    · rw [ofRounded_of_lt no_carry (by omega)]
      exact .finite (lt_of_not_ge (mt carries.2 (by omega))) ⟨rounded_le, by omega, by omega⟩
        nonzero
    · rw [ofRounded_carry_greatest]
      exact .infinite (carries.1 (Nat.le_refl _))
  · rw [ofRounded_of_gt rounded (by omega)]
    apply StandsFor.infinite
    calc infinityBound ≤ (2 : ℚ) ^ (1024 : ℤ) := infinityBound_le
      _ ≤ 2 ^ level := power_mono (by omega)
      _ ≤ number := lower

theorem standsFor_ofRational (positive : 0 < numerator) (denominator_pos : 0 < denominator) :
    StandsFor ((numerator : ℚ) / denominator) (Magnitude.ofRational numerator denominator) := by
  have quotient_pos : (0 : ℚ) < (numerator : ℚ) / denominator :=
    div_pos (by exact_mod_cast positive) (by exact_mod_cast denominator_pos)
  simp only [Magnitude.ofRational, floorLog2_eq positive denominator_pos]
  exact standsFor_ofRounded quotient_pos rfl
    (isRounded_roundHalfEven Nat.two_pos denominator_pos _)

end

/-- A number whose scale exceeds the bits of its digits is below one. -/
theorem lt_one_of_log2_lt_scale {digits : ℕ} {scale : ℤ} (tiny : digits.log2 < scale) :
    (digits : ℚ) * 10 ^ (-scale) < 1 := by
  have digits_lt : (digits : ℚ) < 10 ^ scale := by
    calc (digits : ℚ) < (2 ^ (digits.log2 + 1) : ℕ) := by exact_mod_cast Nat.lt_log2_self
      _ ≤ (10 ^ (digits.log2 + 1) : ℕ) := by exact_mod_cast Nat.pow_le_pow_left (by omega) _
      _ = (10 : ℚ) ^ ((digits.log2 + 1 : ℕ) : ℤ) := by
        rw [zpow_natCast, Nat.cast_pow, Nat.cast_ofNat]
      _ ≤ 10 ^ scale := zpow_le_zpow_right₀ (by norm_num) (by omega)
  rwa [zpow_neg, mul_inv_lt_iff₀ (zpow_pos (by norm_num) _), one_mul]

/-- The binary64 number nearest to a decimal is infinite exactly from the bound on. -/
theorem standsFor_nearest (number : Decimal) :
    StandsFor |number.toRat| (Magnitude.nearest number) := by
  have bound_gt_one := one_lt_infinityBound
  have zero_shape : IsFinite 0 minExponent := ⟨by decide, by decide, by decide⟩
  rw [Decimal.abs_toRat]
  simp only [Magnitude.nearest]
  generalize number.digits.natAbs = digits
  generalize number.scale = scale
  have unit_pos : (0 : ℚ) < (10 : ℚ) ^ (-scale) := zpow_pos (by norm_num) _
  split
  next zero_digits =>
    have zero_number : (digits : ℚ) * (10 : ℚ) ^ (-scale) = 0 := by
      rw [zero_digits, Nat.cast_zero, zero_mul]
    rw [zero_number]
    exact .finite (by linarith) zero_shape (by norm_num)
  next nonzero =>
    have one_le_digits : (1 : ℚ) ≤ digits := by exact_mod_cast Nat.pos_of_ne_zero nonzero
    split
    next huge =>
      apply StandsFor.infinite
      calc infinityBound ≤ (10 : ℚ) ^ (309 : ℤ) := infinityBound_le_ten_pow
        _ ≤ 10 ^ (-scale) := zpow_le_zpow_right₀ (by norm_num) (by omega)
        _ ≤ digits * 10 ^ (-scale) := le_mul_of_one_le_left (le_of_lt unit_pos) one_le_digits
    next moderate =>
      split
      next tiny =>
        have below_one : (digits : ℚ) * 10 ^ (-scale) < 1 :=
          lt_one_of_log2_lt_scale (by omega)
        exact .finite (by linarith) zero_shape fun at_least => by linarith
      next inside =>
        have value_eq : (digits : ℚ) * 10 ^ (-scale) =
            ((scaledDown 10 digits 1 scale).1 : ℚ) / (scaledDown 10 digits 1 scale).2 := by
          rw [scaledDown_div (by omega), Nat.cast_one, div_one, zpow_neg, div_eq_mul_inv,
            Nat.cast_ofNat]
        rw [value_eq]
        exact standsFor_ofRational (scaledDown_fst_pos (by omega) (Nat.pos_of_ne_zero nonzero) _)
          (scaledDown_snd_pos (by omega) Nat.one_pos _)

end PolicyBuiltins.Binary64
