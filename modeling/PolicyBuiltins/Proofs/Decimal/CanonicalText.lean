/-
# The canonical text of a number

A number is written in one form: a minus if it is negative, whole digits without a needless
zero in front, and behind a point the fraction digits without a zero at the end.  Integers
have no point, all other numbers have one.  Within the limits on scales, reading this text
gives the number back.
-/

import PolicyBuiltins.Proofs.Decimal.Limits
import PolicyBuiltins.Proofs.Decimal.Rational

namespace PolicyBuiltins.Decimal

/-- Decimal notation with no character that could be left out. -/
structure CanonicalText (negative : Bool) (whole fraction text : List Char) : Prop where
  text_eq : text = signed negative (whole ++ pointedFraction fraction)
  whole_digits : DigitText whole
  fraction_digits : ∀ c ∈ fraction, c.isDigit = true
  no_leading_zero : whole.head? = some '0' → whole = ['0']
  no_trailing_zero : fraction.getLast? ≠ some '0'

/-- Digits that end in a zero denote a multiple of ten. -/
theorem ten_dvd_value_of_getLast?_eq_zero {digits : List Char}
    (zero : digits.getLast? = some '0') : 10 ∣ Numeral.value 10 digits := by
  obtain ⟨front, rfl⟩ := List.getLast?_eq_some_iff.1 zero
  refine ⟨Numeral.value 10 front, ?_⟩
  rw [Numeral.value_append, show Numeral.value 10 ['0'] = 0 by decide, List.length_singleton]
  omega

variable {number : Decimal} {whole fraction : List Char}

theorem IsPartsOf.fraction_eq_nil_iff (parts : IsPartsOf number whole fraction) :
    fraction = [] ↔ number.isInteger = true := by
  rw [← List.length_eq_zero_iff, parts.fraction_length, isInteger, decide_eq_true_eq]
  omega

/-- The number has as many places as there are fraction digits. -/
theorem IsPartsOf.scale_eq (parts : IsPartsOf number whole fraction)
    (broken : fraction ≠ []) : number.scale = fraction.length := by
  have fraction_pos := List.length_pos_of_ne_nil broken
  have places := parts.fraction_length
  omega

/-- Behind a point, the digits of the text are the digits of the number. -/
theorem IsPartsOf.digits_eq (parts : IsPartsOf number whole fraction)
    (broken : fraction ≠ []) :
    Literal.digits { negative := number.isNegative, whole, fraction, exponent := 0 } =
      number.digits := by
  have scale_eq : Literal.scale
      { negative := number.isNegative, whole, fraction, exponent := 0 } = number.scale := by
    rw [parts.scale_eq broken, Literal.scale, Int.sub_zero]
  have kept := digits_ofParts_mul_pow
    (Literal.digits { negative := number.isNegative, whole, fraction, exponent := 0 })
    (Literal.scale { negative := number.isNegative, whole, fraction, exponent := 0 })
  rw [← Literal.exact, parts.exact_eq, scale_eq, Int.sub_self, Int.toNat_zero, Nat.pow_zero,
    Int.natCast_one, Int.mul_one] at kept
  exact kept.symm

/-- Where the fraction ends, the digits of the number end. -/
theorem IsPartsOf.no_trailing_zero (parts : IsPartsOf number whole fraction) :
    fraction.getLast? ≠ some '0' := by
  intro zero
  have broken : fraction ≠ [] := List.ne_nil_of_mem (List.mem_of_getLast? zero)
  have nonzero : number.digits ≠ 0 := by
    intro zero_digits
    have no_places := number.scale_of_zero zero_digits
    rw [parts.scale_eq broken, Int.natCast_eq_zero, List.length_eq_zero_iff] at no_places
    exact broken no_places
  apply not_ten_dvd_digits nonzero
  have last_zero : (whole ++ fraction).getLast? = some '0' := by
    rw [List.getLast?_append, zero]
    rfl
  have divides : (10 : Int) ∣ Numeral.value 10 (whole ++ fraction) :=
    Int.natCast_dvd_natCast.2 (ten_dvd_value_of_getLast?_eq_zero last_zero)
  rw [← parts.digits_eq broken]
  simp only [Literal.digits]
  split
  · exact Int.dvd_neg.2 divides
  · exact divides

theorem IsPartsOf.canonicalText (parts : IsPartsOf number whole fraction) :
    CanonicalText number.isNegative whole fraction number.text where
  text_eq := parts.text_eq
  whole_digits := ⟨parts.whole_ne_nil, fun c member =>
    parts.digits c (List.mem_append_left _ member)⟩
  fraction_digits := fun c member => parts.digits c (List.mem_append_right _ member)
  no_leading_zero := parts.no_leading_zero
  no_trailing_zero := parts.no_trailing_zero

/-- Within the limit on scales, the text of a number is read as the number. -/
theorem reading_text (limited : |number.scale| ≤ maxScale) :
    reading number.text = .number number := by
  obtain ⟨whole, fraction, parts⟩ := exists_isPartsOf number
  let literal : Literal := { negative := number.isNegative, whole, fraction, exponent := 0 }
  have exact_eq : literal.exact = number := parts.exact_eq
  have written : LiteralText literal number.text :=
    parts.text_eq ▸ literalText_signed parts.decimal number.isNegative
  have stands : literal.StandsIn number.text :=
    ⟨[], number.text, [], by simp, by simp, written⟩
  have scale_bounds := abs_le.1 limited
  have scale_fits : IsWord literal.scale := by
    simp only [Literal.scale, literal, parts.fraction_length, IsWord, leastWord, greatestWord,
      maxScale] at scale_bounds ⊢
    omega
  have exponent_fits : IsWord 0 := by decide
  rw [reading_of_standsIn stands, Literal.reading_eq_number_iff, exact_eq]
  exact ⟨⟨exponent_fits, scale_fits, limited⟩, rfl⟩

/-- Writing a number and reading it back loses nothing, and the text is canonical. -/
theorem ofString_toString_canonical (number : Decimal) (limited : |number.scale| ≤ 100000) :
    ofString (toString number) = .ok number ∧
      ∃ whole fraction,
        CanonicalText number.isNegative whole fraction (toString number).toList ∧
        (fraction = [] ↔ ∃ integer : ℤ, number.toRat = integer) := by
  have text_eq : (toString number).toList = number.text := String.toList_ofList
  rw [ofString_eq_ok_iff, text_eq]
  obtain ⟨whole, fraction, parts⟩ := exists_isPartsOf number
  refine ⟨reading_text limited, whole, fraction, parts.canonicalText, ?_⟩
  rw [parts.fraction_eq_nil_iff, isInteger_iff_exists_int]

/-- A negative number whose whole part is a zero that has to be written. -/
theorem ofString_toString_canonical_below_one :
    ∃ number : Decimal, |number.scale| ≤ 100000 ∧ toString number = "-0.05" ∧
      ofString "-0.05" = .ok number := by
  let number : Decimal := ⟨-5, 2, by decide, by decide⟩
  have limited : |number.scale| ≤ 100000 := by decide
  have text_eq : toString number = "-0.05" := by decide +kernel
  exact ⟨number, limited, text_eq, text_eq ▸ (ofString_toString_canonical number limited).1⟩

end PolicyBuiltins.Decimal
