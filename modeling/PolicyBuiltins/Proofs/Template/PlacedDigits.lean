/-
# Digits around a point

Digits with the place of a point stand for a number.  They can be written in plain notation,
where zeros fill up the places between them and the point, and with an exponent, where the
point stands behind the first digit.  Both texts denote the number exactly, and in both the
fraction ends where the digits end.

Digits without needless zeros at their ends belong to their number: it tells how many they
are and where the point stands.
-/

import PolicyBuiltins.Proofs.Decimal.CanonicalText
import PolicyBuiltins.Proofs.Decimal.Exactness
import PolicyBuiltins.Proofs.Template.FloatingText
import PolicyBuiltins.Proofs.Text.TrimmedEnds

namespace PolicyBuiltins.Decimal

/-- A text is a literal of a number. -/
def Denotes (number : Decimal) (text : List Char) : Prop :=
  ∃ literal : Literal, LiteralText literal text ∧ literal.toRat = number.toRat

/-- A text denotes one number at most. -/
theorem Denotes.unique {number other : Decimal} {text : List Char} (denotes : number.Denotes text)
    (other_denotes : other.Denotes text) : other = number := by
  obtain ⟨literal, written, value_eq⟩ := denotes
  obtain ⟨other_literal, other_written, other_value_eq⟩ := other_denotes
  have same : some other_literal = some literal :=
    (Literal.ofText?_of_literalText other_written).symm.trans
      (Literal.ofText?_of_literalText written)
  apply toRat_injective
  rw [← other_value_eq, ← value_eq, Option.some.inj same]

/-- How many digits a number has, zeros at either end left aside. -/
def significantDigits (number : Decimal) : ℕ :=
  (Nat.digits 10 number.digits.natAbs).length

/-- Digits with a point and an exponent denote their integer at a scale. -/
theorem denotes_of_mantissa {whole fraction mantissa scaled : List Char} {exponent : ℤ}
    (pointed : MantissaText whole fraction mantissa) (decimal : DigitText (whole ++ fraction))
    (exponential : ExponentText exponent scaled) :
    (ofParts (Numeral.value 10 (whole ++ fraction)) (fraction.length - exponent)).Denotes
      (mantissa ++ scaled) := by
  let literal : Literal := { negative := false, whole, fraction, exponent }
  have written : LiteralText literal ([] ++ mantissa ++ scaled) :=
    .intro .absent pointed decimal exponential
  exact ⟨literal, written, literal.toRat_exact.symm⟩

end PolicyBuiltins.Decimal

namespace PolicyBuiltins.Template

open Binary64 (Scientific)
open Decimal (CanonicalText DigitText ExponentText LeadingDigits)

/-- Digits with a point behind the first one. -/
theorem exists_pointedMantissa {digits : List Char} (decimal : DigitText digits) :
    ∃ first others, digits = first :: others ∧ DigitText ([first] ++ others) ∧
      Decimal.MantissaText [first] others (pointedMantissa digits) := by
  obtain ⟨first, others, rfl⟩ := List.exists_cons_of_ne_nil decimal.ne_nil
  exact ⟨first, others, rfl, decimal, mantissaText_pointedMantissa first others⟩

theorem denotes_pointedMantissa {digits scaled : List Char} {exponent : ℤ}
    (decimal : DigitText digits) (exponential : ExponentText exponent scaled) :
    (Decimal.ofParts (Numeral.value 10 digits) (digits.length - 1 - exponent)).Denotes
      (pointedMantissa digits ++ scaled) := by
  obtain ⟨first, others, digits_eq, leading, pointed⟩ := exists_pointedMantissa decimal
  have denotes := Decimal.denotes_of_mantissa pointed leading exponential
  have length_eq : (digits.length : ℤ) - 1 = others.length := by
    rw [digits_eq, List.length_cons]
    omega
  rw [List.singleton_append, ← digits_eq, ← length_eq] at denotes
  exact denotes

namespace PlacedDigits

variable {placed : PlacedDigits}

/-- The number that digits with a point stand for. -/
def number (placed : PlacedDigits) : Decimal :=
  Decimal.ofParts (Numeral.value 10 placed.digits) (placed.digits.length - placed.point)

/-- Digits that neither begin nor end with a zero, except for those of the number zero. -/
structure IsTrimmed (placed : PlacedDigits) : Prop where
  decimal : DigitText placed.digits
  eq_zero_of_head? : placed.digits.head? = some '0' → placed = zero
  eq_zero_of_getLast? : placed.digits.getLast? = some '0' → placed = zero

theorem isTrimmed_zero : zero.IsTrimmed where
  decimal := ⟨List.cons_ne_nil _ _, List.all_eq_true.1 rfl⟩
  eq_zero_of_head? _ := rfl
  eq_zero_of_getLast? _ := rfl

/-! ## Scientific notation -/

theorem ofScientific_zero (count : ℕ) : ofScientific (Scientific.zero count) = zero := by
  have zeros : ∀ c ∈ List.replicate count '0', (c == '0') = true := by
    intro c member
    rw [List.eq_of_mem_replicate member]
    rfl
  have nothing_left : Text.trimRight (· == '0') (List.replicate count '0') = [] := by
    rw [← List.nil_append (List.replicate count '0')]
    exact Text.trimRight_append zeros (by simp)
  rw [ofScientific_eq, Scientific.zero, nothing_left, if_pos rfl]

/-- Taking away zeros at the end leaves trimmed digits. -/
theorem isTrimmed_ofScientific {scientific : Scientific}
    (leads : LeadingDigits True scientific.digits) : (ofScientific scientific).IsTrimmed := by
  obtain ⟨removed, digits_eq, -⟩ := Text.exists_append_trimRight (· == '0') scientific.digits
  have ends := Text.getLast?_trimRight (· == '0') scientific.digits
  rw [ofScientific_eq]
  generalize Text.trimRight (· == '0') scientific.digits = kept at digits_eq ends
  split
  next => exact isTrimmed_zero
  next left =>
    rw [digits_eq] at leads
    have leads := leads.of_append left
    exact ⟨leads.decimal, fun zero => absurd zero (leads.head?_ne_zero trivial),
      fun zero => Bool.noConfusion (ends '0' zero)⟩

/-- The zeros that are taken away do not count. -/
theorem number_ofScientific (scientific : Scientific) :
    (ofScientific scientific).number =
      Decimal.ofParts (Numeral.value 10 scientific.digits)
        (scientific.digits.length - 1 - scientific.exponent) := by
  obtain ⟨removed, digits_eq, removed_zero⟩ :=
    Text.exists_append_trimRight (· == '0') scientific.digits
  have removed_eq : removed = List.replicate removed.length '0' :=
    List.eq_replicate_of_mem fun c member => beq_iff_eq.1 (removed_zero c member)
  rw [ofScientific_eq]
  generalize Text.trimRight (· == '0') scientific.digits = kept at digits_eq
  rw [digits_eq, removed_eq, Numeral.value_append_zeros, Nat.cast_mul,
    Decimal.ofParts_mul_ten_pow, List.length_append, List.length_replicate]
  split
  next empty =>
    rw [empty]
    rfl
  next =>
    rw [number]
    congr 1
    push_cast
    omega

/-! ## With an exponent -/

/-- Behind their first digit, the digits denote their number with the exponent of that digit. -/
theorem denotes_withExponent (decimal : DigitText placed.digits) (upper : Bool) :
    placed.number.Denotes
      (withExponent upper (pointedMantissa placed.digits) (placed.point - 1)) := by
  obtain ⟨scaled, text_eq, exponential⟩ :=
    exponentText_withExponent upper (pointedMantissa placed.digits) (placed.point - 1)
  have denotes := denotes_pointedMantissa decimal exponential
  have scale_eq : (placed.digits.length : ℤ) - 1 - (placed.point - 1) =
      placed.digits.length - placed.point := by omega
  rw [← text_eq, scale_eq] at denotes
  exact denotes

/-! ## Plain notation -/

theorem digitAt_eq_getElem {place : ℕ} (inside : place < placed.digits.length) :
    placed.digitAt place = placed.digits[place] := by
  rw [digitAt, if_neg (by omega), Int.toNat_natCast, List.getD_eq_getElem?_getD,
    List.getElem?_eq_getElem inside, Option.getD_some]

theorem digitAt_of_length_le {place : ℕ} (behind : placed.digits.length ≤ place) :
    placed.digitAt place = '0' := by
  rw [digitAt, if_neg (by omega), Int.toNat_natCast, List.getD_eq_getElem?_getD,
    List.getElem?_eq_none behind, Option.getD_none]

theorem digitAt_of_neg {place : ℤ} (before : place < 0) : placed.digitAt place = '0' := by
  rw [digitAt, if_pos before]

/-- In front of the point stand the digits, filled up by zeros. -/
theorem wholeDigits_of_pos (inside : 0 < placed.point) :
    placed.wholeDigits = placed.digits.take placed.point.toNat ++
      List.replicate (placed.point.toNat - placed.digits.length) '0' := by
  rw [wholeDigits, if_neg (Int.not_le.2 inside)]
  apply List.ext_getElem
  · simp only [List.length_map, List.length_range, List.length_append, List.length_take,
      List.length_replicate]
    omega
  · intro place in_range in_text
    rw [List.getElem_map, List.getElem_range, List.getElem_append]
    split
    next within =>
      rw [List.length_take] at within
      rw [List.getElem_take, digitAt_eq_getElem (by omega)]
    next beyond =>
      rw [List.length_map, List.length_range] at in_range
      rw [List.length_take] at beyond
      rw [List.getElem_replicate, digitAt_of_length_le (by omega)]

/-- Behind a point among the digits, the remaining ones stand. -/
theorem fractionDigits_of_pos (inside : 0 < placed.point) :
    placed.fractionDigits (placed.digits.length - placed.point).toNat =
      placed.digits.drop placed.point.toNat := by
  apply List.ext_getElem
  · rw [fractionDigits, List.length_map, List.length_range, List.length_drop]
    omega
  · intro place in_range in_text
    rw [List.length_drop] at in_text
    have place_eq : placed.point + (place : ℤ) = ((placed.point.toNat + place : ℕ) : ℤ) := by
      push_cast
      omega
    simp only [fractionDigits, List.getElem_map, List.getElem_range, List.getElem_drop]
    rw [place_eq, digitAt_eq_getElem (by omega)]

/-- Behind a point in front of the digits, zeros lead up to them. -/
theorem fractionDigits_of_nonpos (before : placed.point ≤ 0) :
    placed.fractionDigits (placed.digits.length - placed.point).toNat =
      List.replicate (-placed.point).toNat '0' ++ placed.digits := by
  apply List.ext_getElem
  · rw [fractionDigits, List.length_map, List.length_range, List.length_append,
      List.length_replicate]
    omega
  · intro place in_range in_text
    rw [List.length_append, List.length_replicate] at in_text
    simp only [fractionDigits, List.getElem_map, List.getElem_range, List.getElem_append,
      List.length_replicate, List.getElem_replicate]
    split
    next leading => rw [digitAt_of_neg (by omega)]
    next reached =>
      have place_eq : placed.point + (place : ℤ) =
          ((place - (-placed.point).toNat : ℕ) : ℤ) := by omega
      rw [place_eq, digitAt_eq_getElem (by omega)]

/-- Around a point behind their start, the digits stand with zeros up to the point. -/
theorem wholeDigits_append_fractionDigits (inside : 0 < placed.point) :
    placed.wholeDigits ++ placed.fractionDigits (placed.digits.length - placed.point).toNat =
      placed.digits ++ List.replicate (placed.point.toNat - placed.digits.length) '0' := by
  rw [wholeDigits_of_pos inside, fractionDigits_of_pos inside]
  by_cases within : placed.point.toNat ≤ placed.digits.length
  · rw [Nat.sub_eq_zero_of_le within, List.replicate_zero, List.append_nil, List.append_nil,
      List.take_append_drop]
  · rw [List.take_of_length_le (by omega), List.drop_of_length_le (by omega), List.append_nil]

/-- Plain notation with all fraction digits denotes the number. -/
theorem denotes_plain (decimal : DigitText placed.digits) :
    placed.number.Denotes (placed.plain (placed.digits.length - placed.point).toNat) := by
  have whole_length := length_wholeDigits placed
  have written : DigitText (placed.wholeDigits ++
      placed.fractionDigits (placed.digits.length - placed.point).toNat) :=
    ⟨List.append_ne_nil_of_left_ne_nil (List.ne_nil_of_length_pos (by omega)) _,
      fun c => isDigit_of_mem_plain decimal⟩
  have denotes := Decimal.denotes_of_mantissa (Decimal.mantissaText_pointedFraction _ _) written
    .absent
  have fraction_length :
      (placed.fractionDigits (placed.digits.length - placed.point).toNat).length =
        (placed.digits.length - placed.point).toNat := by
    rw [fractionDigits, List.length_map, List.length_range]
  rw [← plain_eq, List.append_nil, fraction_length] at denotes
  suffices number_eq : placed.number = Decimal.ofParts
      (Numeral.value 10 (placed.wholeDigits ++
        placed.fractionDigits (placed.digits.length - placed.point).toNat))
      ((placed.digits.length - placed.point).toNat - 0) by
    rw [number_eq]
    exact denotes
  by_cases inside : 0 < placed.point
  · rw [wholeDigits_append_fractionDigits inside, Numeral.value_append_zeros, Nat.cast_mul,
      Decimal.ofParts_mul_ten_pow, number]
    congr 1
    omega
  · rw [wholeDigits, if_pos (Int.not_lt.1 inside), fractionDigits_of_nonpos (Int.not_lt.1 inside),
      ← List.append_assoc, ← List.replicate_one, List.replicate_append_replicate,
      Numeral.value_replicate_zero_append, number]
    congr 1
    omega

/-- The digits in front of the point begin with a zero only if there are no others. -/
theorem wholeDigits_of_head? (trimmed : placed.IsTrimmed)
    (leading_zero : placed.wholeDigits.head? = some '0') : placed.wholeDigits = ['0'] := by
  by_cases inside : 0 < placed.point
  · have nonempty : placed.digits.take placed.point.toNat ≠ [] := by
      rw [Ne, List.take_eq_nil_iff, not_or]
      exact ⟨by omega, trimmed.decimal.ne_nil⟩
    rw [wholeDigits_of_pos inside, List.head?_append_of_ne_nil _ nonempty, List.head?_take,
      if_neg (by omega)] at leading_zero
    rw [trimmed.eq_zero_of_head? leading_zero]
    rfl
  · rw [wholeDigits, if_pos (Int.not_lt.1 inside)]

/-- The digits behind the point do not end with a zero. -/
theorem getLast?_fractionDigits (trimmed : placed.IsTrimmed) :
    (placed.fractionDigits (placed.digits.length - placed.point).toNat).getLast? ≠ some '0' := by
  intro last_zero
  by_cases inside : 0 < placed.point
  · rw [fractionDigits_of_pos inside, List.getLast?_drop] at last_zero
    split at last_zero
    next => cases last_zero
    next unfinished =>
      rw [trimmed.eq_zero_of_getLast? last_zero] at unfinished
      exact unfinished (Nat.le_refl 1)
  · rw [fractionDigits_of_nonpos (Int.not_lt.1 inside),
      List.getLast?_append_of_ne_nil _ trimmed.decimal.ne_nil] at last_zero
    rw [trimmed.eq_zero_of_getLast? last_zero] at inside
    exact inside Int.one_pos

/-- Plain notation of trimmed digits has no character that could be left out. -/
theorem canonicalText_plain (trimmed : placed.IsTrimmed) :
    CanonicalText false placed.wholeDigits
      (placed.fractionDigits (placed.digits.length - placed.point).toNat)
      (placed.plain (placed.digits.length - placed.point).toNat) where
  text_eq := plain_eq placed _
  whole_digits := by
    have whole_length := length_wholeDigits placed
    refine ⟨List.ne_nil_of_length_pos (by omega), fun c member => ?_⟩
    have among : c ∈ placed.wholeDigits ++ placed.fractionDigits 0 :=
      List.mem_append_left _ member
    exact isDigit_of_mem_plain trimmed.decimal among
  fraction_digits := fun c member =>
    isDigit_of_mem_plain trimmed.decimal (List.mem_append_right _ member)
  no_leading_zero := wholeDigits_of_head? trimmed
  no_trailing_zero := getLast?_fractionDigits trimmed

/-! ## What the number tells -/

theorem toRat_number_zero : zero.number.toRat = 0 := by
  rw [number, Decimal.toRat_ofParts]
  simp [zero, Numeral.value, Numeral.digitValue]

section
variable (trimmed : placed.IsTrimmed) (other : placed ≠ zero)
include trimmed other

/-- The digits denote a number of their length. -/
theorem value_bounds :
    10 ^ (placed.digits.length - 1) ≤ Numeral.value 10 placed.digits ∧
      Numeral.value 10 placed.digits < 10 ^ placed.digits.length := by
  refine ⟨?_, Numeral.value_lt_ten_pow trimmed.decimal.isDigit⟩
  have not_zero : placed.digits.head? ≠ some '0' := mt trimmed.eq_zero_of_head? other
  have decimal := trimmed.decimal
  obtain ⟨first, others, digits_eq⟩ := List.exists_cons_of_ne_nil decimal.ne_nil
  rw [digits_eq] at not_zero decimal ⊢
  exact Numeral.ten_pow_le_value (decimal.isDigit first List.mem_cons_self)
    (fun zero => not_zero (congrArg some zero)) others

/-- The digits with the place of their point are in normal form. -/
theorem number_parts :
    placed.number.digits = Numeral.value 10 placed.digits ∧
      placed.number.scale = placed.digits.length - placed.point := by
  have not_zero : placed.digits.getLast? ≠ some '0' := mt trimmed.eq_zero_of_getLast? other
  have decimal := trimmed.decimal
  have last_digit : Numeral.value 10 placed.digits % 10 ≠ 0 := by
    obtain ⟨front, last, digits_eq⟩ : ∃ front last, placed.digits = front ++ [last] :=
      ⟨_, _, (List.dropLast_append_getLast decimal.ne_nil).symm⟩
    rw [digits_eq] at not_zero decimal ⊢
    have digit := decimal.isDigit last (by simp)
    rw [Numeral.value_mod_ten digit]
    exact Numeral.digitValue_ne_zero digit fun zero => not_zero (by simp [zero])
  let settled : Decimal :=
    { digits := Numeral.value 10 placed.digits
      scale := placed.digits.length - placed.point
      scale_of_zero := fun zero => absurd zero (by omega)
      last_digit_ne_zero := fun _ => by omega }
  have number_eq : placed.number = settled := Decimal.ofParts_digits_scale settled
  rw [number_eq]
  exact ⟨rfl, rfl⟩

theorem significantDigits_number : placed.number.significantDigits = placed.digits.length := by
  obtain ⟨lower, upper⟩ := value_bounds trimmed other
  have nonempty := List.length_pos_of_ne_nil trimmed.decimal.ne_nil
  have nonzero : Numeral.value 10 placed.digits ≠ 0 :=
    Nat.ne_of_gt (Nat.lt_of_lt_of_le (Nat.pow_pos (by omega)) lower)
  rw [Decimal.significantDigits, (number_parts trimmed other).1, Int.natAbs_natCast,
    Nat.length_digits 10 _ (by omega) nonzero]
  have log_ge := (Nat.le_log_iff_pow_le (b := 10) (by omega) nonzero).2 lower
  have log_lt := (Nat.log_lt_iff_lt_pow (b := 10) (by omega) nonzero).2 upper
  omega

/-- The first digit stands for the greatest power of ten in the number. -/
theorem toRat_number_bounds :
    (10 : ℚ) ^ (placed.point - 1) ≤ placed.number.toRat ∧
      placed.number.toRat < (10 : ℚ) ^ (placed.point - 1 + 1) := by
  obtain ⟨lower, upper⟩ := value_bounds trimmed other
  have nonempty := List.length_pos_of_ne_nil trimmed.decimal.ne_nil
  have unit_pos : (0 : ℚ) < 10 ^ (placed.point - placed.digits.length) :=
    zpow_pos (by norm_num) _
  rw [number, Decimal.toRat_ofParts, neg_sub]
  constructor
  · rw [Binary64.ten_pow_mul_grid (placed.point - 1) (placed.digits.length - 1),
      show placed.point - 1 - ((placed.digits.length - 1 : ℕ) : ℤ) =
        placed.point - placed.digits.length by omega]
    exact mul_le_mul_of_nonneg_right (by exact_mod_cast lower) (le_of_lt unit_pos)
  · rw [Binary64.ten_pow_mul_grid (placed.point - 1 + 1) placed.digits.length, sub_add_cancel]
    exact mul_lt_mul_of_pos_right (by exact_mod_cast upper) unit_pos

theorem toRat_number_ne_zero : placed.number.toRat ≠ 0 := by
  have lower := (toRat_number_bounds trimmed other).1
  exact ne_of_gt (lt_of_lt_of_le (zpow_pos (by norm_num) _) lower)

theorem log_toRat_number : Int.log 10 placed.number.toRat = placed.point - 1 := by
  obtain ⟨lower, upper⟩ := toRat_number_bounds trimmed other
  exact Binary64.int_log_eq (by omega) lower upper

end

end PlacedDigits

end PolicyBuiltins.Template
