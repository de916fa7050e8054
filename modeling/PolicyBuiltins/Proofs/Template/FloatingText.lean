/-
# Floating texts are literals

The exponent form and the general form of every finite magnitude are literals of moderate
size behind any sign, so the reader of numbers takes them.  Both show the first digit of the
magnitude, which is a zero only for the magnitude zero.
-/

import PolicyBuiltins.Proofs.Binary64.Digits
import PolicyBuiltins.Proofs.Decimal.Moderate
import PolicyBuiltins.Proofs.Decimal.TextReading
import PolicyBuiltins.Template.Scientific

namespace PolicyBuiltins.Template

open Decimal (DigitText ExponentText LeadingDigits Literal LiteralText MantissaText SignText)

/-! ## Bodies of literals -/

/-- A text that is a literal of moderate size behind any sign.  One of the digits is not a
zero unless the number may be. -/
structure IsBody (nonzero : Prop) (whole fraction : List Char) (exponent : ℤ)
    (body : List Char) : Prop where
  decimal : DigitText (whole ++ fraction)
  written : ∃ mantissa scaled, body = mantissa ++ scaled ∧
    MantissaText whole fraction mantissa ∧ ExponentText exponent scaled
  scale_le : fraction.length - exponent ≤ Decimal.maxScale
  exponent_le : exponent + whole.length ≤ Decimal.maxScale
  digit_ne_zero : nonzero → ∃ c ∈ whole ++ fraction, c ≠ '0'

/-- A text that is the body of a literal. -/
def Readable (nonzero : Prop) (body : List Char) : Prop :=
  ∃ whole fraction exponent, IsBody nonzero whole fraction exponent body

/-- Behind a sign, a readable text is read as a number. -/
theorem Readable.ofString {nonzero : Prop} {body sign : List Char} {minus : Bool}
    (readable : Readable nonzero body) (signed : SignText minus sign) :
    ∃ number, Decimal.ofString (String.ofList (sign ++ body)) = .ok number ∧
      (nonzero → number.toRat ≠ 0) := by
  obtain ⟨whole, fraction, exponent, is_body⟩ := readable
  obtain ⟨mantissa, scaled, rfl, pointed, exponential⟩ := is_body.written
  let literal : Literal := { negative := minus, whole, fraction, exponent }
  have written : LiteralText literal (sign ++ (mantissa ++ scaled)) := by
    rw [← List.append_assoc]
    exact .intro signed pointed is_body.decimal exponential
  refine ⟨literal.exact,
    Decimal.ofString_of_isModerate written ⟨is_body.scale_le, is_body.exponent_le⟩, ?_⟩
  intro holds
  obtain ⟨c, member, other⟩ := is_body.digit_ne_zero holds
  exact Decimal.toRat_exact_ne_zero is_body.decimal member other

/-! ## The exponent form -/

theorem mantissaText_pointedMantissa (first : Char) (others : List Char) :
    MantissaText [first] others (pointedMantissa (first :: others)) := by
  cases others with
  | nil => exact .plain
  | cons second others => exact .pointed (second :: others)

/-- The exponent behind a mantissa. -/
theorem exponentText_withExponent (upper : Bool) (mantissa : List Char) (exponent : ℤ) :
    ∃ scaled, withExponent upper mantissa exponent = mantissa ++ scaled ∧
      ExponentText exponent scaled := by
  have marks : (if upper then 'E' else 'e') = 'e' ∨ (if upper then 'E' else 'e') = 'E' := by
    cases upper <;> decide
  have decimal := Decimal.digitText_padded_ofNat 2 exponent.natAbs
  have value_eq : Decimal.decimalValue (Numeral.padded 2 (Numeral.ofNat 10 exponent.natAbs)) =
      exponent.natAbs := by
    rw [← Decimal.value_eq_decimalValue, Numeral.value_padded,
      Numeral.value_ofNat (by decide) (by decide)]
  refine ⟨_, rfl, ?_⟩
  by_cases negative : exponent < 0
  · rw [if_pos negative]
    have scaled := ExponentText.present marks .minus decimal
    rw [if_pos rfl, value_eq, Int.ofNat_natAbs_of_nonpos (Int.le_of_lt negative),
      Int.neg_neg] at scaled
    exact scaled
  · rw [if_neg negative]
    have scaled := ExponentText.present marks .plus decimal
    rw [if_neg Bool.false_ne_true, value_eq, Int.natAbs_of_nonneg (Int.not_lt.1 negative)]
      at scaled
    exact scaled

/-- Digits behind the first one, with an exponent. -/
theorem readable_withExponent (upper : Bool) {nonzero : Prop} {digits : List Char}
    {exponent : ℤ} (leads : LeadingDigits nonzero digits) (few : digits.length ≤ 66000)
    (small : exponent.natAbs ≤ 1200) :
    Readable nonzero (withExponent upper (pointedMantissa digits) exponent) := by
  cases digits with
  | nil => exact absurd rfl leads.decimal.ne_nil
  | cons first others =>
    obtain ⟨scaled, body_eq, exponential⟩ :=
      exponentText_withExponent upper (pointedMantissa (first :: others)) exponent
    rw [List.length_cons] at few
    refine ⟨[first], others, exponent, leads.decimal,
      ⟨_, scaled, body_eq, mantissaText_pointedMantissa first others, exponential⟩, ?_, ?_, ?_⟩
    · rw [Decimal.maxScale]
      omega
    · rw [Decimal.maxScale, List.length_singleton]
      omega
    · intro holds
      refine ⟨first, List.mem_cons_self, fun zero => leads.head?_ne_zero holds ?_⟩
      rw [zero, List.head?_cons]

theorem readable_exponentForm (upper : Bool) {mantissa precision : ℕ} {exponent : ℤ}
    (finite : Binary64.IsFinite mantissa exponent) (few : precision ≤ 65535) :
    Readable (mantissa ≠ 0) (exponentForm upper precision (.finite mantissa exponent)) := by
  have proper := Binary64.isProper_rounded finite precision
  have length_le := proper.length_le
  have exponent_le := proper.exponent_le
  exact readable_withExponent upper proper.leads (by omega) (by omega)

/-! ## The general form -/

namespace PlacedDigits

/-- Digits that can be written out around a point, as many as `count` at most. -/
structure IsProper (placed : PlacedDigits) (nonzero : Prop) (count : ℕ) : Prop where
  leads : LeadingDigits nonzero placed.digits
  length_le : placed.digits.length ≤ count
  point_le : placed.point.natAbs ≤ 1101

theorem isProper_zero {nonzero : Prop} (zero : ¬ nonzero) {count : ℕ} (positive : 0 < count) :
    PlacedDigits.zero.IsProper nonzero count where
  leads := by
    refine ⟨⟨List.cons_ne_nil _ _, fun c member => ?_⟩, fun holds => absurd holds zero⟩
    rw [List.mem_singleton.1 member]
    rfl
  length_le := positive
  point_le := by decide

theorem ofScientific_eq (scientific : Binary64.Scientific) :
    ofScientific scientific =
      if Text.trimRight (· == '0') scientific.digits = [] then zero
      else { digits := Text.trimRight (· == '0') scientific.digits
             point := scientific.exponent + 1 } := by
  unfold ofScientific Text.trimRight
  split
  next empty => rw [if_pos empty]
  next nonempty => rw [if_neg nonempty]

/-- What is left of digits when the zeros at their end are taken away. -/
theorem isProper_ofScientific {scientific : Binary64.Scientific} {nonzero : Prop} {count : ℕ}
    (proper : scientific.IsProper nonzero count) :
    (ofScientific scientific).IsProper nonzero count := by
  obtain ⟨removed, digits_eq, removed_zero⟩ :=
    Text.exists_append_trimRight (· == '0') scientific.digits
  have leads := proper.leads
  have length_le := proper.length_le
  have exponent_le := proper.exponent_le
  have nonempty := List.length_pos_of_ne_nil leads.decimal.ne_nil
  rw [ofScientific_eq]
  generalize Text.trimRight (· == '0') scientific.digits = kept at digits_eq
  split
  next empty =>
    refine isProper_zero (fun holds => ?_) (by omega)
    obtain ⟨first, others, first_eq⟩ := List.exists_cons_of_ne_nil leads.decimal.ne_nil
    rw [empty, List.nil_append, first_eq] at digits_eq
    have zero := beq_iff_eq.1 (removed_zero first (digits_eq ▸ List.mem_cons_self))
    exact leads.head?_ne_zero holds (by rw [first_eq, zero]; rfl)
  next left =>
    rw [digits_eq] at leads length_le
    rw [List.length_append] at length_le
    refine ⟨leads.of_append left, Nat.le_trans (Nat.le_add_right _ _) length_le, ?_⟩
    show (scientific.exponent + 1).natAbs ≤ 1101
    omega

variable {placed : PlacedDigits} {nonzero : Prop} {count : ℕ}

theorem isDigit_digitAt (decimal : DigitText placed.digits) (place : ℤ) :
    (placed.digitAt place).isDigit = true := by
  unfold digitAt
  split
  · rfl
  · rw [List.getD_eq_getElem?_getD]
    cases found : placed.digits[place.toNat]? with
    | none => rfl
    | some c => exact decimal.isDigit c (List.mem_of_getElem? found)

theorem digitAt_zero_ne_zero (proper : placed.IsProper nonzero count) (holds : nonzero) :
    placed.digitAt 0 ≠ '0' := by
  have head := proper.leads.head?_ne_zero holds
  cases digits_eq : placed.digits with
  | nil => exact absurd digits_eq proper.leads.decimal.ne_nil
  | cons first others =>
    rw [digits_eq, List.head?_cons] at head
    simp only [digitAt, digits_eq, lt_self_iff_false, ↓reduceIte, Int.toNat_zero,
      List.getD_cons_zero]
    exact fun zero => head (congrArg some zero)

/-- The digits in front of the point. -/
def wholeDigits (placed : PlacedDigits) : List Char :=
  if placed.point ≤ 0 then ['0']
  else (List.range placed.point.toNat).map fun (place : ℕ) => placed.digitAt place

/-- The digits behind the point, as many as asked for. -/
def fractionDigits (placed : PlacedDigits) (decimals : ℕ) : List Char :=
  (List.range decimals).map fun (place : ℕ) => placed.digitAt (placed.point + place)

theorem plain_eq (placed : PlacedDigits) (decimals : ℕ) :
    placed.plain decimals =
      placed.wholeDigits ++ Decimal.pointedFraction (placed.fractionDigits decimals) := by
  cases decimals with
  | zero => simp [plain, wholeDigits, fractionDigits, Decimal.pointedFraction]
  | succ decimals =>
    simp only [plain, fractionDigits, Nat.succ_ne_zero, ↓reduceIte, List.range_succ_eq_map,
      List.map_cons, Decimal.pointedFraction, wholeDigits]

theorem isDigit_of_mem_plain (decimal : DigitText placed.digits) {decimals : ℕ} {c : Char}
    (member : c ∈ placed.wholeDigits ++ placed.fractionDigits decimals) : c.isDigit = true := by
  rcases List.mem_append.1 member with in_whole | in_fraction
  · unfold wholeDigits at in_whole
    split at in_whole
    · rw [List.mem_singleton.1 in_whole]
      rfl
    · obtain ⟨place, -, rfl⟩ := List.mem_map.1 in_whole
      exact isDigit_digitAt decimal place
  · obtain ⟨place, -, rfl⟩ := List.mem_map.1 in_fraction
    exact isDigit_digitAt decimal _

/-- The first of the digits is written if there is room for one. -/
theorem digitAt_zero_mem {decimals : ℕ} (room : 0 < decimals + placed.point) :
    placed.digitAt 0 ∈ placed.wholeDigits ++ placed.fractionDigits decimals := by
  rw [List.mem_append]
  by_cases below : placed.point ≤ 0
  · refine Or.inr (List.mem_map.2 ⟨(-placed.point).toNat, List.mem_range.2 (by omega), ?_⟩)
    rw [Int.toNat_of_nonneg (by omega), Int.add_right_neg]
  · rw [wholeDigits, if_neg below]
    exact Or.inl (List.mem_map.2 ⟨0, List.mem_range.2 (by omega), rfl⟩)

theorem length_wholeDigits (placed : PlacedDigits) :
    placed.wholeDigits.length = max 1 placed.point.toNat := by
  unfold wholeDigits
  split
  · rw [List.length_singleton]
    omega
  · rw [List.length_map, List.length_range]
    omega

theorem readable_plain (proper : placed.IsProper nonzero count) {decimals : ℕ}
    (few : decimals ≤ 70000) (room : 0 < decimals + placed.point) :
    Readable nonzero (placed.plain decimals) := by
  have point_le := proper.point_le
  have whole_length := length_wholeDigits placed
  have whole_ne_nil : placed.wholeDigits ≠ [] := List.ne_nil_of_length_pos (by omega)
  refine ⟨placed.wholeDigits, placed.fractionDigits decimals, 0,
    ⟨List.append_ne_nil_of_left_ne_nil whole_ne_nil _,
      fun c => isDigit_of_mem_plain proper.leads.decimal⟩,
    ⟨_, [], by rw [List.append_nil, plain_eq], Decimal.mantissaText_pointedFraction _ _,
      .absent⟩, ?_, ?_, fun holds => ⟨_, digitAt_zero_mem room, digitAt_zero_ne_zero proper holds⟩⟩
  · rw [fractionDigits, List.length_map, List.length_range, Decimal.maxScale]
    omega
  · rw [Decimal.maxScale]
    omega

end PlacedDigits

/-- The digits that the general form shows of a finite magnitude. -/
theorem isProper_ofMagnitude {mantissa : ℕ} {exponent : ℤ}
    (finite : Binary64.IsFinite mantissa exponent) {asked : Option ℕ}
    (few : ∀ places ∈ asked, places ≤ 65535) :
    (PlacedDigits.ofMagnitude asked (.finite mantissa exponent)).IsProper (mantissa ≠ 0)
      65535 := by
  apply PlacedDigits.isProper_ofScientific
  cases asked with
  | none =>
    have proper := Binary64.isProper_shortest finite
    exact { proper with length_le := Nat.le_trans proper.length_le (by decide) }
  | some places =>
    have proper := Binary64.isProper_rounded finite (places - 1)
    have places_le := few places rfl
    exact { proper with length_le := Nat.le_trans proper.length_le (by omega) }

/-- Both notations of the general form, for any count of digits to show and any threshold. -/
theorem readable_placed (upper : Bool) {placed : PlacedDigits} {nonzero : Prop}
    (proper : placed.IsProper nonzero 65535) {shown : ℕ} (positive : 0 < shown)
    (few : shown ≤ 65535) (wantsExponent : Prop) [Decidable wantsExponent] :
    Readable nonzero
      (if wantsExponent then
        withExponent upper
          (pointedMantissa (placed.digits.take (min shown placed.digits.length)))
          (placed.point - 1)
      else placed.plain
        ((if placed.point < shown then placed.digits.length else shown) - placed.point).toNat) := by
  have length_le := proper.length_le
  have point_le := proper.point_le
  have length_pos := List.length_pos_of_ne_nil proper.leads.decimal.ne_nil
  split
  next =>
    apply readable_withExponent upper (proper.leads.take (by omega))
    · rw [List.length_take]
      omega
    · omega
  next =>
    apply PlacedDigits.readable_plain proper
    · split <;> omega
    · split <;> omega

theorem readable_generalForm (upper : Bool) {mantissa : ℕ} {precision : Option ℕ} {exponent : ℤ}
    (finite : Binary64.IsFinite mantissa exponent) (few : ∀ places ∈ precision, places ≤ 65535) :
    Readable (mantissa ≠ 0) (generalForm upper precision (.finite mantissa exponent)) := by
  have asked_le : ∀ places ∈ precision.map (max 1), places ≤ 65535 := by
    intro places member
    obtain ⟨given, given_eq, rfl⟩ := Option.map_eq_some_iff.1 member
    have := few given given_eq
    omega
  have proper := isProper_ofMagnitude finite asked_le
  cases precision with
  | none =>
    exact readable_placed upper proper (List.length_pos_of_ne_nil proper.leads.decimal.ne_nil)
      proper.length_le _
  | some places =>
    have places_le := few places rfl
    exact readable_placed upper proper (by omega) (by omega) _

end PolicyBuiltins.Template
