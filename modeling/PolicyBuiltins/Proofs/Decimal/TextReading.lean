/-
# The canonical text of a number is a literal of it

The canonical text of a number has the shape of a literal without an exponent.  Its digits
are those of an integer, cut where as many as the fraction has are left.  The parts of this
literal denote the number that was written, whatever its scale is, so different numbers have
different texts.  The limits on literals play no part here.
-/

import PolicyBuiltins.Decimal.Lemmas
import PolicyBuiltins.Decimal.Notation
import PolicyBuiltins.Numeral.Lemmas
import PolicyBuiltins.Proofs.Decimal.Grammar

namespace PolicyBuiltins.Decimal

/-! ## Literals without an exponent -/

/-- The fraction of a literal behind its point, nothing where there is none. -/
def pointedFraction : List Char → List Char
  | [] => []
  | digit :: fraction => '.' :: digit :: fraction

theorem mantissaText_pointedFraction (whole fraction : List Char) :
    MantissaText whole fraction (whole ++ pointedFraction fraction) := by
  cases fraction with
  | nil =>
    rw [pointedFraction, List.append_nil]
    exact .plain
  | cons digit fraction => exact .pointed (digit :: fraction)

theorem exists_signText_signed (negative : Bool) (text : List Char) :
    ∃ sign, SignText negative sign ∧ signed negative text = sign ++ text := by
  cases negative with
  | false => exact ⟨[], .absent, rfl⟩
  | true => exact ⟨['-'], .minus, rfl⟩

section
variable {whole fraction : List Char}

/-- A sign, digits, a point and further digits have no other characters. -/
theorem mem_signed {negative : Bool} {c : Char} (decimal : DigitText (whole ++ fraction))
    (member : c ∈ signed negative (whole ++ pointedFraction fraction)) :
    c = '-' ∨ c = '.' ∨ c.isDigit = true := by
  have unsigned := mantissaText_pointedFraction whole fraction
  cases negative with
  | false => exact Or.inr (unsigned.mem decimal member)
  | true =>
    rcases List.mem_cons.1 member with minus | inside
    · exact Or.inl minus
    · exact Or.inr (unsigned.mem decimal inside)

/-- A sign, digits, and a point in front of further digits make a literal of these
parts. -/
theorem literalText_signed (decimal : DigitText (whole ++ fraction)) (negative : Bool) :
    LiteralText { negative, whole, fraction, exponent := 0 }
      (signed negative (whole ++ pointedFraction fraction)) := by
  obtain ⟨sign, sign_text, shape⟩ :=
    exists_signText_signed negative (whole ++ pointedFraction fraction)
  rw [shape, ← List.append_nil (sign ++ _)]
  exact .intro sign_text (mantissaText_pointedFraction whole fraction) decimal .absent

end

/-! ## Digits around a point -/

/-- What stands in front of the point is the beginning of the numeral, or it is the first
of the zeros that bring the numeral to its length. -/
theorem no_leading_zero_of_padded {units places : Nat} {whole fraction : List Char}
    (positive : 0 < places) (length : fraction.length = places)
    (joined : whole ++ fraction = Numeral.padded (places + 1) (Numeral.ofNat 10 units))
    (zero : whole.head? = some '0') : whole = ['0'] := by
  have lengths := congrArg List.length joined
  simp only [Numeral.padded, List.length_append, List.length_replicate, length] at lengths
  by_cases short : (Numeral.ofNat 10 units).length ≤ places
  · obtain ⟨c, whole_eq⟩ := List.length_eq_one_iff.1 (show whole.length = 1 by omega)
    rw [whole_eq] at zero ⊢
    rw [Option.some.inj zero]
  · rw [Numeral.padded, show places + 1 - (Numeral.ofNat 10 units).length = 0 by omega,
      List.replicate_zero, List.nil_append] at joined
    have numeral_zero : (Numeral.ofNat 10 units).head? = some '0' := by
      rw [← joined, List.head?_append, zero]
      rfl
    have single := congrArg List.length
      (Numeral.eq_zero_of_head_withoutLeadingZeros numeral_zero)
    rw [← Numeral.ofNat, List.length_singleton] at single
    omega

/-- Digits brought to more than a count of places, cut where that many are left. -/
theorem exists_pointed_eq (units places : Nat) (positive : 0 < places) :
    ∃ whole fraction, whole ≠ [] ∧ fraction.length = places ∧
      whole ++ fraction = Numeral.padded (places + 1) (Numeral.ofNat 10 units) ∧
      pointed units places = whole ++ pointedFraction fraction := by
  let digits := Numeral.padded (places + 1) (Numeral.ofNat 10 units)
  have long : places < digits.length := by
    simp only [digits, Numeral.padded, List.length_append, List.length_replicate]
    omega
  have fraction_length : (digits.drop (digits.length - places)).length = places := by
    rw [List.length_drop]
    omega
  refine ⟨digits.take (digits.length - places), digits.drop (digits.length - places), ?_,
    fraction_length, List.take_append_drop _ _, ?_⟩
  · apply List.ne_nil_of_length_pos
    rw [List.length_take]
    omega
  · rw [pointed, if_neg (Nat.ne_of_gt positive)]
    cases behind : digits.drop (digits.length - places) with
    | nil =>
      rw [behind, List.length_nil] at fraction_length
      omega
    | cons digit fraction =>
      simp only [pointedFraction, ← behind, digits]

/-- Decimal notation with exactly `places` fraction digits, and no zero in front that could
be left out. -/
structure FixedText (negative : Bool) (places : ℕ) (whole fraction text : List Char) : Prop where
  text_eq : text = signed negative (whole ++ pointedFraction fraction)
  whole_digits : DigitText whole
  fraction_digits : ∀ c ∈ fraction, c.isDigit = true
  no_leading_zero : whole.head? = some '0' → whole = ['0']
  length_fraction : fraction.length = places

theorem FixedText.decimal {negative : Bool} {places : ℕ} {whole fraction text : List Char}
    (fixed_text : FixedText negative places whole fraction text) : DigitText (whole ++ fraction) where
  ne_nil := List.append_ne_nil_of_left_ne_nil fixed_text.whole_digits.ne_nil fraction
  isDigit := by
    intro c member
    rcases List.mem_append.1 member with in_whole | in_fraction
    · exact fixed_text.whole_digits.isDigit c in_whole
    · exact fixed_text.fraction_digits c in_fraction

/-- The digits of a count of units, cut at the point. -/
theorem exists_fixedText_pointed (units places : ℕ) :
    ∃ whole fraction, FixedText false places whole fraction (pointed units places) ∧
      Numeral.value 10 (whole ++ fraction) = units := by
  rcases Nat.eq_zero_or_pos places with rfl | positive
  · refine ⟨Numeral.ofNat 10 units, [], ⟨?_, ?_, by simp, ?_, rfl⟩, ?_⟩
    · rw [pointed, if_pos rfl, pointedFraction, List.append_nil]
      rfl
    · exact ⟨Numeral.ofNat_ne_nil _ _, fun _ => Numeral.isDigit_of_mem_ofNat⟩
    · exact Numeral.eq_zero_of_head_withoutLeadingZeros
    · rw [List.append_nil, Numeral.value_ofNat (by decide) (by decide)]
  · obtain ⟨whole, fraction, nonempty, length, joined, cut⟩ :=
      exists_pointed_eq units places positive
    have digits : ∀ c ∈ whole ++ fraction, c.isDigit = true := by
      rw [joined]
      exact fun c => Numeral.isDigit_of_mem_padded fun _ => Numeral.isDigit_of_mem_ofNat
    refine ⟨whole, fraction, ⟨cut, ⟨nonempty, ?_⟩, ?_, ?_, length⟩, ?_⟩
    · exact fun c member => digits c (List.mem_append_left _ member)
    · exact fun c member => digits c (List.mem_append_right _ member)
    · exact no_leading_zero_of_padded positive length joined
    · rw [joined, Numeral.value_padded, Numeral.value_ofNat (by decide) (by decide)]

/-! ## The canonical text -/

/-- The number that the parts of a literal denote, no limit applied. -/
def Literal.exact (literal : Literal) : Decimal :=
  Decimal.ofParts literal.digits literal.scale

/-- An integer from its sign and its magnitude. -/
theorem ite_neg_natAbs (number : Int) :
    (if number < 0 then -(number.natAbs : Int) else number.natAbs) = number := by
  split <;> omega

/-- Taking the fractional part away from an integer keeps its sign. -/
theorem truncate_neg_iff {number : Decimal} (whole : number.isInteger = true) :
    number.truncate < 0 ↔ number.digits < 0 := by
  have ten_pow_pos : 0 < ((Nat.pow 10 (-number.scale).toNat : Nat) : Int) :=
    Int.natCast_pos.2 (Nat.pow_pos (by omega))
  rw [truncate, if_pos (of_decide_eq_true whole)]
  apply Iff.intro
  · intro negative
    apply Int.lt_of_not_ge
    intro nonneg
    have := Int.mul_nonneg nonneg (Int.le_of_lt ten_pow_pos)
    omega
  · intro negative
    exact Int.mul_neg_of_neg_of_pos negative ten_pow_pos

/-- What a text is made of: a sign, whole digits, and fraction digits behind a point.
Read as the parts of a literal, they denote the number. -/
structure IsPartsOf (number : Decimal) (whole fraction : List Char) : Prop where
  whole_ne_nil : whole ≠ []
  no_leading_zero : whole.head? = some '0' → whole = ['0']
  fraction_length : fraction.length = number.scale.toNat
  digits : ∀ c ∈ whole ++ fraction, c.isDigit = true
  text_eq : number.text = signed number.isNegative (whole ++ pointedFraction fraction)
  exact_eq :
    Literal.exact { negative := number.isNegative, whole, fraction, exponent := 0 } = number

theorem IsPartsOf.decimal {number : Decimal} {whole fraction : List Char}
    (parts : IsPartsOf number whole fraction) : DigitText (whole ++ fraction) :=
  ⟨List.append_ne_nil_of_left_ne_nil parts.whole_ne_nil fraction, parts.digits⟩

theorem isPartsOf_of_isInteger {number : Decimal} (whole : number.isInteger = true) :
    IsPartsOf number (Numeral.ofNat 10 number.truncate.natAbs) [] where
  whole_ne_nil := Numeral.ofNat_ne_nil _ _
  no_leading_zero := Numeral.eq_zero_of_head_withoutLeadingZeros
  fraction_length := by
    rw [List.length_nil, Int.toNat_of_nonpos (of_decide_eq_true whole)]
  digits := by
    intro c member
    rw [List.append_nil] at member
    exact Numeral.isDigit_of_mem_ofNat member
  text_eq := by
    rw [text, if_pos whole, pointedFraction, List.append_nil, Numeral.ofInt, signed,
      isNegative]
    simp only [truncate_neg_iff whole, decide_eq_true_eq]
  exact_eq := by
    have digits_eq : Literal.digits
        { negative := number.isNegative, whole := Numeral.ofNat 10 number.truncate.natAbs,
          fraction := [], exponent := 0 } = number.truncate := by
      simp only [Literal.digits, List.append_nil, Numeral.value_ofNat, isNegative,
        decide_eq_true_eq, ← truncate_neg_iff whole, ite_neg_natAbs, Nat.reduceLeDiff]
    rw [Literal.exact, digits_eq]
    exact ofInt_truncate whole

theorem exists_isPartsOf_of_not_isInteger {number : Decimal}
    (broken : number.isInteger = false) : ∃ whole fraction, IsPartsOf number whole fraction := by
  have scale_pos : 0 < number.scale := by
    have := of_decide_eq_false broken
    omega
  obtain ⟨whole, fraction, unsigned, value_eq⟩ :=
    exists_fixedText_pointed number.digits.natAbs number.scale.toNat
  refine ⟨whole, fraction, unsigned.whole_digits.ne_nil, unsigned.no_leading_zero,
    unsigned.length_fraction, unsigned.decimal.isDigit, ?_, ?_⟩
  · rw [text, if_neg (by rw [broken]; exact Bool.false_ne_true), unsigned.text_eq]
    rfl
  · have digits_eq : Literal.digits
        { negative := number.isNegative, whole, fraction, exponent := 0 } =
          number.digits := by
      simp only [Literal.digits, value_eq, isNegative, decide_eq_true_eq, ite_neg_natAbs]
    have scale_eq : Literal.scale
        { negative := number.isNegative, whole, fraction, exponent := 0 } = number.scale := by
      simp only [Literal.scale, unsigned.length_fraction]
      omega
    rw [Literal.exact, digits_eq, scale_eq, ofParts_digits_scale]

/-- The text of every number is made of the parts of a literal that denotes it. -/
theorem exists_isPartsOf (number : Decimal) :
    ∃ whole fraction, IsPartsOf number whole fraction := by
  cases whole : number.isInteger with
  | true => exact ⟨_, _, isPartsOf_of_isInteger whole⟩
  | false => exact exists_isPartsOf_of_not_isInteger whole

/-- The text of a number, read as a literal, denotes the number. -/
theorem exists_ofText?_text (number : Decimal) :
    ∃ literal, Literal.ofText? number.text = some literal ∧ literal.exact = number := by
  obtain ⟨whole, fraction, parts⟩ := exists_isPartsOf number
  refine ⟨_, ?_, parts.exact_eq⟩
  rw [parts.text_eq]
  exact Literal.ofText?_eq_some_iff.2
    (literalText_signed parts.decimal number.isNegative)

/-- Different numbers have different texts. -/
theorem text_injective : Function.Injective Decimal.text := by
  intro first second same
  obtain ⟨literal, read, exact_first⟩ := exists_ofText?_text first
  obtain ⟨literal', read', exact_second⟩ := exists_ofText?_text second
  rw [same, read'] at read
  rw [← exact_first, ← exact_second, Option.some.inj read]

/-- The text of a number has digits, a point and a minus only. -/
theorem mem_text {number : Decimal} {c : Char} (member : c ∈ number.text) :
    c = '-' ∨ c = '.' ∨ c.isDigit = true := by
  obtain ⟨whole, fraction, parts⟩ := exists_isPartsOf number
  rw [parts.text_eq] at member
  exact mem_signed parts.decimal member

theorem text_ne_nil (number : Decimal) : number.text ≠ [] := by
  obtain ⟨whole, fraction, parts⟩ := exists_isPartsOf number
  rw [parts.text_eq]
  intro empty
  cases sign : number.isNegative with
  | true => simp [sign, signed] at empty
  | false =>
    rw [sign] at empty
    exact parts.whole_ne_nil (List.append_eq_nil_iff.1 empty).1

end PolicyBuiltins.Decimal
