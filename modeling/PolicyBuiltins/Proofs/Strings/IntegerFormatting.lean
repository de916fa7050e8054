/-
# Formatted integers

An integer formatted by a directive can be read again: what stands between the spaces is its
sign, a mark if one is asked for, and digits that denote its magnitude.  Without flags, width
and precision the directive writes what `format_int` writes in the same base, and `%d` writes
the text of the number itself.
-/

import PolicyBuiltins.Proofs.Catalogue.Standard
import PolicyBuiltins.Proofs.Decimal.Rational
import PolicyBuiltins.Proofs.Template.IntegerVerb

namespace PolicyBuiltins.Strings

open Template (DirectiveText Flags IntegerVerb Spec WidthText)

/-! ## Calls -/

/-- A call of `sprintf` with a template and an array gives the formatted text. -/
theorem call_sprintf {settings : Settings} {template : String} {arguments : List Value}
    {text : List Char}
    (formatted : Template.format settings.mismatches template.toList arguments = .ok text) :
    (Catalogue.standard settings).call "sprintf" [.string template, .array arguments] =
      .defined (.ofChars text) := by
  have inside : ⟨"sprintf", 2, sprintf⟩ ∈ builtins := by simp [builtins]
  refine (Catalogue.call_standard inside rfl).trans ?_
  show (Outcome.ofResult (Template.format settings.mismatches template.toList arguments >>=
    fun text => pure (.ofChars text))).mapFailure _ = _
  rw [formatted]
  rfl

/-- A call of `format_int` with a number and a base gives the numeral of the number without its
fractional part. -/
theorem call_formatInt (settings : Settings) (number : Decimal) {base : ℕ}
    (listed : base ∈ formatBases) :
    (Catalogue.standard settings).call "format_int" [.number number, .ofInt base] =
      .defined (.ofChars (Numeral.ofInt base number.truncate)) := by
  have inside : ⟨"format_int", 2, formatInt⟩ ∈ builtins := by simp [builtins]
  have found : (formatBases.find? fun (radix : ℕ) =>
      (Decimal.ofInt base).toWord? == some (radix : ℤ)) = some base := by
    have word : (Decimal.ofInt base).toWord? = some (base : ℤ) := by
      refine Decimal.toWord?_eq_some_iff.2 ⟨?_, rfl⟩
      simp only [formatBases, List.mem_cons, List.not_mem_nil, or_false] at listed
      rcases listed with rfl | rfl | rfl | rfl <;> decide
    rw [word]
    simp only [formatBases, List.mem_cons, List.not_mem_nil, or_false] at listed
    rcases listed with rfl | rfl | rfl | rfl <;> rfl
  have number_ok : Operand.number (.number number) 1 = .ok number := rfl
  have base_ok : Operand.number (.ofInt base) 2 = .ok (.ofInt base) := rfl
  refine (Catalogue.call_standard inside rfl).trans ?_
  simp only [formatInt, Invocation.argument, List.getD_cons_succ, List.getD_cons_zero, number_ok,
    base_ok, bind, Except.bind, found]
  rfl

/-! ## Integers -/

/-- The integer verbs write in the bases of `format_int`. -/
theorem mem_formatBases {verb : Char} {base : ℕ} {mark alphabet : String}
    (named : IntegerVerb verb base mark alphabet) : base ∈ formatBases := by
  cases named <;> decide

/-- A directive with an integer verb loses nothing of an integer.  Between spaces it writes the
sign, the mark that the sharp flag asks for, and digits that denote the magnitude.  If it has
no flags, width and precision, it writes what `format_int` writes, and `%d` the text of the
number. -/
theorem integer_directive_keeps_value (settings : Settings) {number : Decimal}
    (integral : number.scale ≤ 0) {verb : Char} {base : ℕ} {mark alphabet : String}
    (named : IntegerVerb verb base mark alphabet) {spec : Spec}
    (width_le : ∀ columns ∈ spec.width, columns ≤ 1000000)
    (precision_le : ∀ places ∈ spec.precision, places ≤ 1000000) {template : String}
    (written : DirectiveText verb spec template.toList) :
    ∃ draft, Draft.standard? = .ok draft ∧ ∃ text digits : List Char,
      let call := (draft.withSettings settings).seal.call
      call "sprintf" [.string template, .array [.number number]] = .defined (.ofChars text) ∧
      Text.trim (· == ' ') text =
        (if number.toRat < 0 then ['-'] else if spec.flags.plus then ['+'] else []) ++
          ((if spec.flags.sharp then mark.toList else []) ++ digits) ∧
      max 1 (spec.precision.getD 0) ≤ digits.length ∧
      (∀ c ∈ digits, c ∈ alphabet.toList) ∧
      (Numeral.value base digits : ℚ) = |number.toRat| ∧
      (spec = { flags := Flags.ofChars [], width := none, precision := none } →
        (verb ≠ 'X' →
          call "format_int" [.number number, .ofInt base] = .defined (.ofChars text)) ∧
        (verb = 'd' → text = (toString number).toList)) := by
  have whole : number.isInteger = true := decide_eq_true integral
  have value_eq : number.toRat = number.truncate := by
    rw [← Decimal.toRat_ofInt, Decimal.ofInt_truncate whole]
  obtain ⟨radix, verb_eq, radix_named⟩ := named.exists_radix
  obtain ⟨digits, trimmed, length_ge, inside, denotes⟩ :=
    radix_named.exists_digits spec number.truncate
  have formatted := Template.format_integer settings.mismatches written
    ⟨width_le, precision_le⟩ verb_eq whole
  refine ⟨_, Draft.standard?_eq_ok, _, digits, call_sprintf formatted, ?_, length_ge, inside,
    ?_, ?_⟩
  · rw [trimmed, value_eq]
    simp [Template.signOf, Int.cast_lt_zero]
  · rw [denotes, value_eq, Nat.cast_natAbs, Int.cast_abs]
  · rintro rfl
    refine ⟨fun lower => ?_, ?_⟩
    · rw [Template.integerText_plain (named.radix_ne lower verb_eq), radix_named.base_eq]
      exact call_formatInt settings number (mem_formatBases named)
    · rintro rfl
      cases verb_eq
      rw [Template.integerText_plain (by decide)]
      exact (String.toList_ofList.trans (if_pos whole)).symm

/-- Zeros that fill the width stand behind the sign and the mark, and are digits as well. -/
theorem integer_directive_keeps_value_zero_filled :
    ∃ number : Decimal, number.scale ≤ 0 ∧ number.toRat = 48000 ∧
      IntegerVerb 'X' 16 "0X" "0123456789ABCDEF" ∧
      DirectiveText 'X' ⟨Flags.ofChars ['0', '+', '#'], some 10, none⟩ "%0+#10X".toList ∧
      ∃ draft, Draft.standard? = .ok draft ∧ ∃ digits : List Char,
        (draft.withSettings .strict).seal.call "sprintf"
            [.string "%0+#10X", .array [.number number]] = .defined (.string "+0X000BB80") ∧
        Text.trim (· == ' ') "+0X000BB80".toList = ['+'] ++ ("0X".toList ++ digits) ∧
        1 ≤ digits.length ∧ (Numeral.value 16 digits : ℚ) = 48000 := by
  let number : Decimal := ⟨48, -3, by decide, by decide⟩
  have integral : number.scale ≤ 0 := by decide
  have value_eq : number.toRat = 48000 := by norm_num [Decimal.toRat, number]
  have written : DirectiveText 'X' ⟨Flags.ofChars ['0', '+', '#'], some 10, none⟩
      "%0+#10X".toList :=
    .intro (List.all_eq_true.1 (by decide))
      (@WidthText.present ['1', '0'] ⟨by decide, List.all_eq_true.1 (by decide)⟩ (by decide))
      .absent
  have formatted : Template.format .reject "%0+#10X".toList [.number number] =
      .ok "+0X000BB80".toList := by decide +kernel
  obtain ⟨draft, registered, text, digits, sprintf_call, trimmed, length_ge, -, denotes, -⟩ :=
    integer_directive_keeps_value .strict integral .hexadecimalUpper (by simp) (by simp) written
  have text_eq : text = "+0X000BB80".toList := by
    rw [Draft.standard?_eq_ok, Except.ok.injEq] at registered
    subst registered
    injection sprintf_call.symm.trans (call_sprintf formatted) with value_eq
    injection value_eq with chars_eq
    exact String.ofList_injective chars_eq
  subst text_eq
  rw [value_eq, if_neg (by norm_num), if_pos (by decide), if_pos (by decide)] at trimmed
  rw [value_eq, abs_of_pos (by norm_num)] at denotes
  refine ⟨number, integral, value_eq, .hexadecimalUpper, written, draft, registered, digits,
    sprintf_call, trimmed, length_ge, denotes⟩

end PolicyBuiltins.Strings
