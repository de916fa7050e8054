/-
# Fixed-point text is correctly rounded

A number with a count of fraction digits is written as the nearest multiple of the unit of
the last digit, with the even one of two that are equally near.  The directives `%f` and `%F`
write the same digits.  Their flags and width decide about spaces around the text, zeros in
front and a plus, none of which changes what is denoted.  They show the minus of a number that
is rounded to zero, where the plain text leaves it out; the two still denote the same.
-/

import PolicyBuiltins.Proofs.Decimal.FixedPlaces
import PolicyBuiltins.Proofs.Template.SingleDirective

namespace PolicyBuiltins.Template

open Decimal (DigitText FixedText IsNearestMultiple Literal LiteralText SignText)

/-! ## Literals with zeros in front -/

/-- A sign, zeros in front and a fixed-point text make a literal. -/
theorem literalText_zeros {negative : Bool} {sign whole fraction text : List Char} {places : ℕ}
    (signed : SignText negative sign) (zeros : ℕ)
    (unsigned : FixedText false places whole fraction text) :
    LiteralText
      { negative, whole := List.replicate zeros '0' ++ whole, fraction, exponent := 0 }
      (sign ++ (List.replicate zeros '0' ++ text)) := by
  have decimal : DigitText (List.replicate zeros '0' ++ whole ++ fraction) := by
    rw [List.append_assoc]
    refine ⟨List.append_ne_nil_of_right_ne_nil _ unsigned.decimal.ne_nil, fun c member => ?_⟩
    rcases List.mem_append.1 member with zero | digit
    · rw [List.eq_of_mem_replicate zero]
      rfl
    · exact unsigned.decimal.isDigit c digit
  have text_eq : text = whole ++ Decimal.pointedFraction fraction := unsigned.text_eq
  rw [text_eq, ← List.append_assoc (List.replicate zeros '0'), ← List.append_nil (sign ++ _)]
  exact .intro signed (Decimal.mantissaText_pointedFraction _ _) decimal .absent

/-- No space stands in a literal, so trimming leaves it as it is. -/
theorem trim_literalText {literal : Literal} {before text after : List Char}
    (blank : ∀ c ∈ before ++ after, (c == ' ') = true) (written : LiteralText literal text) :
    Text.trim (· == ' ') (before ++ text ++ after) = text := by
  refine trim_of_no_space blank fun c member => ?_
  rintro rfl
  exact absurd (written.not_isWhiteSpace member) (by decide)

/-! ## The directive -/

/-- However a fixed-point body is laid out, what stands between the spaces denotes the
rounded number. -/
theorem floatText_pointed_denotes (spec : Spec) (number : Decimal) (places : ℕ) :
    ∃ literal : Literal,
      LiteralText literal (Text.trim (· == ' ')
        (floatText spec number (Decimal.pointed (number.unitsAt places) places))) ∧
      literal.toRat = number.signedUnitsAt places * (10 : ℚ) ^ (-(places : ℤ)) := by
  obtain ⟨whole, fraction, unsigned, value_eq⟩ :=
    Decimal.exists_fixedText_pointed (number.unitsAt places) places
  obtain ⟨before, zeros, after, laid_out, blank⟩ :=
    exists_layOut_signOf spec true number.isNegative []
      (Decimal.pointed (number.unitsAt places) places)
  rw [List.append_nil, List.nil_append] at laid_out
  have written := literalText_zeros (signText_signOf number.isNegative spec.flags) zeros unsigned
  refine ⟨{ negative := number.isNegative, whole := List.replicate zeros '0' ++ whole, fraction,
            exponent := 0 }, ?_, ?_⟩
  · rw [floatText, laid_out, trim_literalText blank written]
    exact written
  · rw [← Numeral.value_replicate_zero_append 10 zeros, ← List.append_assoc] at value_eq
    rw [Literal.toRat_of_value value_eq, unsigned.length_fraction, Decimal.signedUnitsAt]

/-- A directive with a fixed-point verb writes the rounded number. -/
theorem format_fixed_denotes (rule : MismatchRule) {template : List Char} {spec : Spec}
    {verb : Char} (allowed : spec.Allowed) (fixed_point : verb ∈ ['f', 'F'])
    (written : pieces template = [.directive spec verb]) {places : ℕ}
    (precise : spec.precision = some places) (number : Decimal) :
    ∃ text, ∃ literal : Literal,
      format rule template [.number number] = .ok text ∧
      LiteralText literal (Text.trim (· == ' ') text) ∧
      literal.toRat = number.signedUnitsAt places * (10 : ℚ) ^ (-(places : ℤ)) := by
  have named : Verb.ofChar? verb = some .fixed ∧ verb ≠ '%' := by
    simp only [List.mem_cons, List.not_mem_nil, or_false] at fixed_point
    rcases fixed_point with rfl | rfl
    · exact ⟨rfl, by decide⟩
    · exact ⟨rfl, by decide⟩
  obtain ⟨literal, in_text, denotes⟩ := floatText_pointed_denotes spec number places
  refine ⟨_, literal, ?_, in_text, denotes⟩
  rw [format_directive allowed written named.2]
  simp only [renderArgument, named.1, Verb.render, limited_of_allowed allowed,
    Value.asNumber?, Option.map_some, precise, Option.getD_some]

/-- The text of a number with a count of fraction digits is that of the nearest multiple of
the last digit's unit.  Fixed-point directives denote the same under all flags and widths. -/
theorem fixed_rounds_to_nearest (number : Decimal) (places : ℕ) :
    ∃ (units : ℤ) (whole fraction : List Char),
      (∀ count, IsNearestMultiple number.toRat ((10 : ℚ) ^ (-(places : ℤ))) count ↔
        count = units) ∧
      FixedText (decide (units < 0)) places whole fraction (number.fixed places) ∧
      Literal.toRat { negative := decide (units < 0), whole, fraction, exponent := 0 } =
        units * (10 : ℚ) ^ (-(places : ℤ)) ∧
      (∀ (rule : MismatchRule) (template : List Char) (flags : Flags) (width : Option ℕ)
        (verb : Char), places ≤ 1000000 → (∀ columns ∈ width, columns ≤ 1000000) →
        verb ∈ ['f', 'F'] →
        pieces template = [.directive { flags, width, precision := some places } verb] →
        ∃ text, ∃ literal : Literal,
          format rule template [.number number] = .ok text ∧
          LiteralText literal (Text.trim (· == ' ') text) ∧
          literal.toRat = units * (10 : ℚ) ^ (-(places : ℤ))) := by
  obtain ⟨whole, fraction, fixed_text, denotes⟩ := Decimal.exists_fixedText_fixed number places
  refine ⟨number.signedUnitsAt places, whole, fraction,
    fun count => Decimal.isNearestMultiple_iff number places, fixed_text, denotes, ?_⟩
  intro rule template flags width verb places_le width_le fixed_point written
  have allowed : Spec.Allowed { flags, width, precision := some places } := by
    refine ⟨width_le, fun asked found => ?_⟩
    rw [← Option.some.inj found]
    exact places_le
  exact format_fixed_denotes rule allowed fixed_point written rfl number

/-- A negative tie, with a sign, zeros and spaces that the directive may add. -/
theorem fixed_rounds_to_nearest_tie :
    ∃ number : Decimal, number.toRat = -2675 / 1000 ∧ number.fixed 2 = "-2.68".toList ∧
      ∃ text, ∃ literal : Literal, format .reject "%+09.2f".toList [.number number] = .ok text ∧
        LiteralText literal (Text.trim (· == ' ') text) ∧ literal.toRat = -268 / 100 := by
  let number : Decimal := ⟨-2675, 3, by decide, by decide⟩
  obtain ⟨units, whole, fraction, nearest, -, -, directive⟩ := fixed_rounds_to_nearest number 2
  have units_eq : -268 = units :=
    (nearest (-268)).1 ((Decimal.isNearestMultiple_iff number 2).2 (by decide +kernel))
  obtain ⟨text, literal, formatted, written, denotes⟩ :=
    directive .reject "%+09.2f".toList
      { minus := false, plus := true, space := false, zero := true, sharp := false } (some 9) 'f'
      (by decide) (by simp) (by decide) (by decide +kernel)
  refine ⟨number, ?_, by decide +kernel, text, literal, formatted, written, ?_⟩
  · norm_num [Decimal.toRat, number]
  · rw [denotes, ← units_eq]
    norm_num

end PolicyBuiltins.Template
