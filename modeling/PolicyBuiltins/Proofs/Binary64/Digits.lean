/-
# The digits of finite binary64 numbers

Both ways of choosing digits start from the decimal logarithm of the exact value.  Rounding
to a count of digits gives exactly that count.  The search for the fewest digits always
ends: at seventeen digits the unit of the grid is narrower than the interval of the numbers
that read back.  Either way the first digit is a zero only for the number zero, and the
exponent is small.
-/

import Mathlib.Tactic.LinearCombination
import PolicyBuiltins.Binary64.Scientific
import PolicyBuiltins.Proofs.Binary64.Nearest
import PolicyBuiltins.Proofs.Numeral.Digits

namespace PolicyBuiltins.Binary64

/-! ## The place of the first digit -/

theorem digitCount_eq (number : ℕ) : digitCount number = Nat.log 10 number + 1 := by
  fun_induction digitCount number with
  | case1 number small => rw [Nat.log_of_lt small]
  | case2 number large ih => rw [ih, Nat.log_of_one_lt_of_le (n := number) (by omega) (by omega)]

theorem floorLog10_eq {numerator denominator : ℕ} (positive : 0 < numerator)
    (denominator_pos : 0 < denominator) :
    floorLog10 numerator denominator = Int.log 10 ((numerator : ℚ) / denominator) := by
  simp only [floorLog10, digitCount_eq]
  split
  next above =>
    rw [int_log_div_of_le denominator_pos above]
    push_cast
    omega
  next below =>
    rw [int_log_div_of_lt (by omega) positive (by omega)]
    push_cast
    rfl

/-- A power of two, with the parts of its exponent on both sides of a fraction. -/
theorem mul_two_pow_div (number : ℕ) (exponent : ℤ) :
    ((number * Nat.pow 2 exponent.toNat : ℕ) : ℚ) / (Nat.pow 2 (-exponent).toNat : ℕ) =
      number * 2 ^ exponent := by
  have split_exponent : exponent = exponent.toNat - (-exponent).toNat := by omega
  conv_rhs => rw [split_exponent, zpow_sub₀ (by norm_num), zpow_natCast, zpow_natCast]
  simp only [Nat.pow_eq, Nat.cast_mul, Nat.cast_pow, Nat.cast_ofNat, mul_div_assoc]

theorem leadingExponent_eq {mantissa : ℕ} (nonzero : mantissa ≠ 0) (exponent : ℤ) :
    leadingExponent mantissa exponent = Int.log 10 ((mantissa : ℚ) * 2 ^ exponent) := by
  rw [leadingExponent, floorLog10_eq, mul_two_pow_div]
  · exact Nat.mul_pos (Nat.pos_of_ne_zero nonzero) (Nat.pow_pos Nat.two_pos)
  · exact Nat.pow_pos Nat.two_pos

section
variable {mantissa : ℕ} {exponent : ℤ}

theorem value_pos (nonzero : mantissa ≠ 0) : (0 : ℚ) < mantissa * 2 ^ exponent :=
  mul_pos (by exact_mod_cast Nat.pos_of_ne_zero nonzero) (zpow_pos (by norm_num) _)

theorem ten_pow_leadingExponent_le (nonzero : mantissa ≠ 0) (exponent : ℤ) :
    (10 : ℚ) ^ leadingExponent mantissa exponent ≤ mantissa * 2 ^ exponent := by
  rw [leadingExponent_eq nonzero]
  exact Int.zpow_log_le_self (b := 10) (by omega) (value_pos nonzero)

theorem lt_ten_pow_leadingExponent (nonzero : mantissa ≠ 0) (exponent : ℤ) :
    (mantissa : ℚ) * 2 ^ exponent < 10 ^ (leadingExponent mantissa exponent + 1) := by
  rw [leadingExponent_eq nonzero]
  exact Int.lt_zpow_succ_log_self (b := 10) (by omega) _

/-- The exponents of ten of finite numbers have at most four digits. -/
theorem leadingExponent_bounds (finite : IsFinite mantissa exponent) (nonzero : mantissa ≠ 0) :
    -1074 ≤ leadingExponent mantissa exponent ∧ leadingExponent mantissa exponent ≤ 1024 := by
  have one_le : (1 : ℚ) ≤ mantissa := by exact_mod_cast Nat.pos_of_ne_zero nonzero
  have least : (10 : ℚ) ^ (-1074 : ℤ) ≤ mantissa * 2 ^ exponent := by
    calc (10 : ℚ) ^ (-1074 : ℤ) ≤ 2 ^ (-1074 : ℤ) := by
          rw [zpow_neg, zpow_neg]
          exact inv_anti₀ (zpow_pos (by norm_num) _)
            (zpow_le_zpow_left₀ (by norm_num) (by norm_num) (by norm_num))
      _ ≤ 2 ^ exponent := zpow_le_zpow_right₀ (by norm_num) finite.le_exponent
      _ ≤ mantissa * 2 ^ exponent :=
          le_mul_of_one_le_left (le_of_lt (zpow_pos (by norm_num) _)) one_le
  have greatest : (mantissa : ℚ) * 2 ^ exponent ≤ 10 ^ (1024 : ℤ) := by
    have mantissa_le : (mantissa : ℚ) ≤ 2 ^ (53 : ℤ) := by exact_mod_cast finite.mantissa_le
    calc (mantissa : ℚ) * 2 ^ exponent ≤ 2 ^ (53 : ℤ) * 2 ^ (971 : ℤ) :=
          mul_le_mul mantissa_le (zpow_le_zpow_right₀ (by norm_num) finite.exponent_le)
            (le_of_lt (zpow_pos (by norm_num) _)) (le_of_lt (zpow_pos (by norm_num) _))
      _ = 2 ^ (1024 : ℤ) := by rw [← zpow_add₀ (by norm_num)]; rfl
      _ ≤ 10 ^ (1024 : ℤ) := zpow_le_zpow_left₀ (by norm_num) (by norm_num) (by norm_num)
  constructor
  · rw [leadingExponent_eq nonzero]
    exact (Int.zpow_le_iff_le_log (b := 10) (by omega) (value_pos nonzero)).1 least
  · have powers := le_trans (ten_pow_leadingExponent_le nonzero exponent) greatest
    exact (zpow_le_zpow_iff_right₀ (by norm_num)).1 powers

end

/-! ## Digits with their exponent -/

/-- Digits that can be written out, `count` of them at most, with an exponent of four digits
at most. -/
structure Scientific.IsProper (scientific : Scientific) (nonzero : Prop) (count : ℕ) : Prop where
  leads : Decimal.LeadingDigits nonzero scientific.digits
  length_le : scientific.digits.length ≤ count
  exponent_le : scientific.exponent.natAbs ≤ 1100

theorem isProper_zero {count : ℕ} (positive : 0 < count) {nonzero : Prop} (zero : ¬ nonzero) :
    (Scientific.zero count).IsProper nonzero count where
  leads := by
    refine ⟨⟨by simp [Scientific.zero, Nat.ne_of_gt positive], fun c member => ?_⟩,
      fun holds => absurd holds zero⟩
    rw [List.eq_of_mem_replicate member]
    rfl
  length_le := by simp [Scientific.zero]
  exponent_le := by simp [Scientific.zero]

/-- A coefficient of `count + 1` digits, or the power of ten above these. -/
theorem isProper_ofCoefficient {coefficient count : ℕ} {leading : ℤ}
    (lower : 10 ^ count ≤ coefficient) (upper : coefficient ≤ 10 ^ (count + 1))
    (bounds : -1074 ≤ leading ∧ leading ≤ 1024) (nonzero : Prop) :
    (Scientific.ofCoefficient coefficient (leading - count)).IsProper nonzero (count + 2) := by
  have coefficient_ne_zero : coefficient ≠ 0 :=
    Nat.ne_of_gt (Nat.lt_of_lt_of_le (Nat.pow_pos (by omega)) lower)
  have length_eq := Numeral.length_ofNat coefficient_ne_zero
  have log_ge : count ≤ Nat.log 10 coefficient :=
    (Nat.le_log_iff_pow_le (by omega) coefficient_ne_zero).2 lower
  have log_le : Nat.log 10 coefficient ≤ count + 1 := by
    rw [← Nat.log_pow (b := 10) (by omega) (count + 1)]
    exact Nat.log_mono_right upper
  refine ⟨Decimal.leadingDigits_ofNat coefficient_ne_zero, ?_, ?_⟩
  · simp only [Scientific.ofCoefficient]
    omega
  · simp only [Scientific.ofCoefficient]
    omega

section
variable {mantissa : ℕ} {exponent : ℤ}

/-- A power of ten on the grid whose unit stands `places` digits behind the first one. -/
theorem ten_pow_mul_grid (leading : ℤ) (places : ℕ) :
    (10 : ℚ) ^ leading = (10 ^ places : ℕ) * (10 : ℚ) ^ (leading - places) := by
  rw [Nat.cast_pow, Nat.cast_ofNat, ← zpow_natCast, ← zpow_add₀ (by norm_num)]
  congr 1
  omega

theorem isProper_rounded (finite : IsFinite mantissa exponent) (places : ℕ) :
    (rounded mantissa exponent places).IsProper (mantissa ≠ 0) (places + 1) := by
  by_cases zero : mantissa = 0
  · rw [rounded, if_pos zero]
    exact isProper_zero (by omega) (not_not.2 zero)
  · have bounds := leadingExponent_bounds finite zero
    have least := ten_pow_leadingExponent_le zero exponent
    have greatest := lt_ten_pow_leadingExponent zero exponent
    simp only [rounded, zero, ↓reduceIte]
    generalize leadingExponent mantissa exponent = leading at bounds least greatest
    have round := @isRounded_roundHalfEven (mantissa * Nat.pow 2 exponent.toNat)
      (Nat.pow 2 (-exponent).toNat) 10 (by omega) (Nat.pow_pos (by omega)) (leading - places)
    rw [mul_two_pow_div] at round
    generalize roundHalfEven _ _ = coefficient at round
    have lower : 10 ^ places ≤ coefficient := by
      apply round.le
      rw [Nat.cast_ofNat, ← ten_pow_mul_grid]
      exact least
    have upper : coefficient ≤ 10 ^ (places + 1) := by
      apply round.ge
      rw [Nat.cast_ofNat, show leading - places = leading + 1 - (places + 1 : ℕ) by omega,
        ← ten_pow_mul_grid]
      exact le_of_lt greatest
    have proper := isProper_ofCoefficient lower upper bounds (mantissa ≠ 0)
    exact ⟨proper.leads.take (Nat.succ_ne_zero places), List.length_take_le _ _,
      proper.exponent_le⟩

/-! ## The search for the fewest digits -/

/-- A quarter of the last mantissa bit and the unit of a grid, as whole numbers in the same
proportion. -/
def IsQuarterAndUnit (exponent grid : ℤ) (quarter unit : ℕ) : Prop :=
  scaledDown 10 (Nat.pow 2 (exponent - 2).toNat) (Nat.pow 2 (2 - exponent).toNat) grid =
    (quarter, unit)

theorem exists_isQuarterAndUnit (exponent grid : ℤ) :
    ∃ quarter unit, IsQuarterAndUnit exponent grid quarter unit :=
  ⟨_, _, rfl⟩

section
variable {grid : ℤ} {quarter unit : ℕ}

theorem IsQuarterAndUnit.unit_pos (scaled : IsQuarterAndUnit exponent grid quarter unit) :
    0 < unit := by
  rw [show unit = (quarter, unit).2 from rfl, ← scaled]
  exact scaledDown_snd_pos (by decide) (Nat.pow_pos Nat.two_pos) grid

theorem IsQuarterAndUnit.mul_eq (scaled : IsQuarterAndUnit exponent grid quarter unit) :
    (4 : ℚ) * quarter * 10 ^ grid = 2 ^ exponent * unit := by
  have unit_ne_zero : (unit : ℚ) ≠ 0 := Nat.cast_ne_zero.2 (Nat.ne_of_gt scaled.unit_pos)
  have quotient := @scaledDown_div (Nat.pow 2 (exponent - 2).toNat)
    (Nat.pow 2 (2 - exponent).toNat) 10 (by decide) grid
  have power := mul_two_pow_div 1 (exponent - 2)
  rw [Nat.one_mul, neg_sub, Nat.cast_one, one_mul] at power
  have quarter_power : (2 : ℚ) ^ (exponent - 2) = 2 ^ exponent / 4 := by
    rw [zpow_sub₀ (by norm_num)]
    norm_num
  rw [IsQuarterAndUnit] at scaled
  rw [scaled, power, quarter_power, Nat.cast_ofNat,
    div_eq_div_iff unit_ne_zero (Decimal.ten_zpow_ne_zero grid)] at quotient
  linear_combination 4 * quotient

/-- The coefficient that is found is one of the two neighbours on its grid. -/
theorem eq_of_coefficientInInterval?_eq_some {coefficient : ℕ}
    (scaled : IsQuarterAndUnit exponent grid quarter unit)
    (found : coefficientInInterval? mantissa exponent grid = some coefficient) :
    coefficient = 4 * mantissa * quarter / unit ∨
      coefficient = 4 * mantissa * quarter / unit + 1 := by
  rw [IsQuarterAndUnit] at scaled
  simp only [coefficientInInterval?, scaled] at found
  split at found
  · split at found
    · exact Or.inl (Option.some.inj found).symm
    · exact Or.inr (Option.some.inj found).symm
  · exact Or.inl (Option.some.inj found).symm
  · exact Or.inr (Option.some.inj found).symm
  · cases found

/-- A grid whose unit is no wider than the interval has a coefficient. -/
theorem isSome_coefficientInInterval?
    (scaled : IsQuarterAndUnit exponent grid quarter unit)
    (narrow : unit < if mantissa = hiddenBit then 3 * quarter else 4 * quarter) :
    (coefficientInInterval? mantissa exponent grid).isSome := by
  have small := Nat.mod_lt (4 * mantissa * quarter) scaled.unit_pos
  rw [IsQuarterAndUnit] at scaled
  simp only [coefficientInInterval?, scaled]
  split
  · split <;> rfl
  · rfl
  · rfl
  next lower_missed upper_missed =>
    exfalso
    have half_le_of_missed {distance half : ℕ}
        (missed : (if mantissa % 2 = 0 then decide (distance ≤ half)
          else decide (distance < half)) = false) : half ≤ distance := by
      split at missed
      · exact Nat.le_of_lt (Nat.lt_of_not_le (of_decide_eq_false missed))
      · exact Nat.le_of_not_lt (of_decide_eq_false missed)
    have lower_half := half_le_of_missed lower_missed
    have upper_half := half_le_of_missed upper_missed
    split at narrow <;> split at lower_half <;> omega

end

section
variable {extra quarter unit : ℕ}

/-- Where the magnitude stands on a grid that begins `extra` digits behind the first one. -/
theorem IsQuarterAndUnit.bounds (nonzero : mantissa ≠ 0)
    (scaled : IsQuarterAndUnit exponent (leadingExponent mantissa exponent - extra) quarter unit) :
    10 ^ extra * unit ≤ 4 * mantissa * quarter ∧
      4 * mantissa * quarter < 10 ^ (extra + 1) * unit := by
  have least := ten_pow_leadingExponent_le nonzero exponent
  have greatest := lt_ten_pow_leadingExponent nonzero exponent
  have unit_pos : (0 : ℚ) < unit := Nat.cast_pos.2 scaled.unit_pos
  have proportion := scaled.mul_eq
  generalize leadingExponent mantissa exponent = leading at least greatest proportion
  have grid_pos : (0 : ℚ) < 10 ^ (leading - extra) := zpow_pos (by norm_num) _
  have magnitude : (4 : ℚ) * mantissa * quarter * 10 ^ (leading - extra) =
      mantissa * 2 ^ exponent * unit := by linear_combination (mantissa : ℚ) * proportion
  constructor
  · have lower : ((10 ^ extra : ℕ) : ℚ) * unit * 10 ^ (leading - extra) ≤
        4 * mantissa * quarter * 10 ^ (leading - extra) := by
      rw [magnitude, mul_right_comm _ (unit : ℚ), ← ten_pow_mul_grid]
      exact mul_le_mul_of_nonneg_right least (le_of_lt unit_pos)
    exact_mod_cast le_of_mul_le_mul_right lower grid_pos
  · have upper : (4 : ℚ) * mantissa * quarter * 10 ^ (leading - extra) <
        ((10 ^ (extra + 1) : ℕ) : ℚ) * unit * 10 ^ (leading - extra) := by
      rw [magnitude, mul_right_comm _ (unit : ℚ),
        show leading - extra = leading + 1 - (extra + 1 : ℕ) by omega, ← ten_pow_mul_grid]
      exact mul_lt_mul_of_pos_right greatest unit_pos
    exact_mod_cast lt_of_mul_lt_mul_right upper (le_of_lt grid_pos)

/-- What the search finds has one digit more than its grid asks for, or it is the power of
ten above these. -/
theorem coefficient_bounds (nonzero : mantissa ≠ 0) {coefficient : ℕ}
    (found : coefficientInInterval? mantissa exponent
      (leadingExponent mantissa exponent - extra) = some coefficient) :
    10 ^ extra ≤ coefficient ∧ coefficient ≤ 10 ^ (extra + 1) := by
  obtain ⟨quarter, unit, scaled⟩ :=
    exists_isQuarterAndUnit exponent (leadingExponent mantissa exponent - extra)
  obtain ⟨lower, upper⟩ := scaled.bounds nonzero
  have neighbour := eq_of_coefficientInInterval?_eq_some scaled found
  have below : 10 ^ extra ≤ 4 * mantissa * quarter / unit :=
    (Nat.le_div_iff_mul_le scaled.unit_pos).2 lower
  have above : 4 * mantissa * quarter / unit < 10 ^ (extra + 1) :=
    (Nat.div_lt_iff_lt_mul scaled.unit_pos).2 upper
  omega

end

/-- Seventeen digits suffice. -/
theorem isSome_coefficientInInterval?_sixteen (finite : IsFinite mantissa exponent)
    (nonzero : mantissa ≠ 0) :
    (coefficientInInterval? mantissa exponent
      (leadingExponent mantissa exponent - (16 : ℕ))).isSome := by
  obtain ⟨quarter, unit, scaled⟩ :=
    exists_isQuarterAndUnit exponent (leadingExponent mantissa exponent - (16 : ℕ))
  apply isSome_coefficientInInterval? scaled
  have unit_pos := scaled.unit_pos
  have lower := (scaled.bounds nonzero).1
  have quarters_le := Nat.mul_le_mul_right (4 * quarter) finite.mantissa_le
  rw [show 4 * mantissa * quarter = mantissa * (4 * quarter) by ring] at lower
  split
  next power =>
    rw [power, hiddenBit] at lower
    omega
  next => omega

theorem exists_shortestCoefficient (finite : IsFinite mantissa exponent)
    (nonzero : mantissa ≠ 0) :
    ∃ extra ≤ 16, ∃ coefficient,
      shortestCoefficient mantissa exponent =
        (coefficient, leadingExponent mantissa exponent - (extra : ℕ)) ∧
      10 ^ extra ≤ coefficient ∧ coefficient ≤ 10 ^ (extra + 1) := by
  simp only [shortestCoefficient]
  cases search : (List.range sufficientDigits).findSome? fun extra =>
      (coefficientInInterval? mantissa exponent
        (leadingExponent mantissa exponent - (extra : ℕ))).map fun coefficient =>
          (coefficient, leadingExponent mantissa exponent - (extra : ℕ)) with
  | none =>
    rw [List.findSome?_eq_none_iff] at search
    have missed := search 16 (List.mem_range.2 (by decide))
    have found := isSome_coefficientInInterval?_sixteen finite nonzero
    rw [Option.map_eq_none_iff] at missed
    rw [missed] at found
    cases found
  | some result =>
    obtain ⟨extra, tried, found⟩ := List.exists_of_findSome?_eq_some search
    obtain ⟨coefficient, in_interval, rfl⟩ := Option.map_eq_some_iff.1 found
    exact ⟨extra, Nat.le_of_lt_succ (List.mem_range.1 tried), coefficient, rfl,
      coefficient_bounds nonzero in_interval⟩

theorem isProper_shortest (finite : IsFinite mantissa exponent) :
    (shortest mantissa exponent).IsProper (mantissa ≠ 0) 18 := by
  by_cases zero : mantissa = 0
  · rw [shortest, if_pos zero]
    have proper := isProper_zero Nat.one_pos (not_not.2 zero)
    exact { proper with length_le := Nat.le_trans proper.length_le (by omega) }
  · obtain ⟨extra, few, coefficient, search, lower, upper⟩ :=
      exists_shortestCoefficient finite zero
    have proper := isProper_ofCoefficient lower upper (leadingExponent_bounds finite zero)
      (mantissa ≠ 0)
    simp only [shortest, zero, ↓reduceIte, search]
    exact { proper with length_le := Nat.le_trans proper.length_le (by omega) }

end

end PolicyBuiltins.Binary64
