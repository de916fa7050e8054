/-
# The range in which floating directives read back

A floating directive starts from the binary64 number nearest to its argument.  Where that
number is finite, the text is a literal that can be read again, and not one of zero unless
the argument is below one.  From `2 ^ 1024 - 2 ^ 970` on the nearest number is infinite: the
exponent form names infinity where digits should stand, and the general form shows a zero.
-/

import PolicyBuiltins.Proofs.Template.FloatingText
import PolicyBuiltins.Proofs.Template.SingleDirective

namespace PolicyBuiltins.Template

/-- The text of a number under a template is a literal, and not one of zero if the magnitude
of the number is at least one. -/
def ReadsBack (rule : MismatchRule) (template : List Char) (number : Decimal) : Prop :=
  ∃ text read, format rule template [.number number] = .ok text ∧
    Decimal.ofString (String.ofList text) = .ok read ∧
    (1 ≤ |number.toRat| → read.toRat ≠ 0)

/-! ## The forms of the verbs -/

/-- How a floating verb writes the magnitude of its number. -/
inductive FloatingForm (precision : Option ℕ) : Char → (Binary64.Magnitude → List Char) → Prop
  | exponent : FloatingForm precision 'e' (exponentForm false (precision.getD defaultPrecision))
  | exponentUpper :
      FloatingForm precision 'E' (exponentForm true (precision.getD defaultPrecision))
  | general : FloatingForm precision 'g' (generalForm false precision)
  | generalUpper : FloatingForm precision 'G' (generalForm true precision)

section
variable {precision : Option ℕ} {verb : Char} {form : Binary64.Magnitude → List Char}

theorem exists_floatingForm (precision : Option ℕ) (floating : verb ∈ ['e', 'E', 'g', 'G']) :
    ∃ form, FloatingForm precision verb form := by
  simp only [List.mem_cons, List.not_mem_nil, or_false] at floating
  rcases floating with rfl | rfl | rfl | rfl
  · exact ⟨_, .exponent⟩
  · exact ⟨_, .exponentUpper⟩
  · exact ⟨_, .general⟩
  · exact ⟨_, .generalUpper⟩

theorem FloatingForm.readable (floating : FloatingForm precision verb form)
    (few : ∀ places ∈ precision, places ≤ 65535) {mantissa : ℕ} {exponent : ℤ}
    (finite : Binary64.IsFinite mantissa exponent) :
    Readable (mantissa ≠ 0) (form (.finite mantissa exponent)) := by
  have places_le : precision.getD defaultPrecision ≤ 65535 := by
    cases precision with
    | none => decide
    | some places => exact few places rfl
  cases floating with
  | exponent => exact readable_exponentForm false finite places_le
  | exponentUpper => exact readable_exponentForm true finite places_le
  | general => exact readable_generalForm false finite few
  | generalUpper => exact readable_generalForm true finite few

/-- Infinity has no digits, and the general form shows it as a zero. -/
theorem generalForm_infinite (upper : Bool) (precision : Option ℕ) :
    generalForm upper precision .infinite = ['0'] := by
  cases precision with
  | none => cases upper <;> decide
  | some places =>
    simp only [generalForm, PlacedDigits.ofMagnitude, PlacedDigits.zero, Option.map_some,
      List.length_singleton]
    obtain single | more : max 1 places = 1 ∨ 1 < places := by omega
    · simp [single, PlacedDigits.plain, PlacedDigits.digitAt]
    · simp [more, PlacedDigits.plain, PlacedDigits.digitAt]

/-- An infinite magnitude is not written as a literal, or it is written as zero. -/
theorem FloatingForm.infinite (floating : FloatingForm precision verb form) {negative : Bool}
    {number : Decimal}
    (read : Decimal.ofString
      (String.ofList (signOf negative (Flags.ofChars []) ++ form .infinite)) = .ok number) :
    number.toRat = 0 := by
  have exponent_unread (upper : Bool) :
      Decimal.reading (signOf negative (Flags.ofChars []) ++
        withExponent upper "inf".toList 0) = .refused := by
    cases negative <;> cases upper <;> decide +kernel
  have zero_read : Decimal.reading (signOf negative (Flags.ofChars []) ++ ['0']) =
      .number Decimal.zero := by
    cases negative <;> decide +kernel
  rw [Decimal.ofString_eq_ok_iff, String.toList_ofList] at read
  cases floating with
  | exponent => cases (exponent_unread false).symm.trans read
  | exponentUpper => cases (exponent_unread true).symm.trans read
  | general =>
    rw [generalForm_infinite, zero_read] at read
    exact Decimal.toRat_eq_zero_iff.2 (Decimal.Reading.number.inj read ▸ rfl)
  | generalUpper =>
    rw [generalForm_infinite, zero_read] at read
    exact Decimal.toRat_eq_zero_iff.2 (Decimal.Reading.number.inj read ▸ rfl)

/-- A directive without flags and width writes a sign and the form of its verb. -/
theorem FloatingForm.format_eq (floating : FloatingForm precision verb form)
    (few : ∀ places ∈ precision, places ≤ maxCount) (rule : MismatchRule) {template : List Char}
    (written : pieces template =
      [.directive { flags := Flags.ofChars [], width := none, precision } verb])
    (number : Decimal) :
    format rule template [.number number] =
      .ok (signOf number.isNegative (Flags.ofChars []) ++ form (.nearest number)) := by
  have allowed : Spec.Allowed { flags := Flags.ofChars [], width := none, precision } :=
    ⟨by simp, few⟩
  have laid_out (body : List Char) :
      floatText { flags := Flags.ofChars [], width := none, precision } number body =
        signOf number.isNegative (Flags.ofChars []) ++ body := by
    simp [floatText, layOut, Flags.ofChars]
  have not_percent : verb ≠ '%' := by
    cases floating <;> decide
  rw [format_directive allowed written not_percent]
  cases floating <;>
    simp only [renderArgument, Verb.ofChar?, Verb.render, limited_of_allowed allowed,
      Value.asNumber?, Option.map_some, laid_out]

end

/-! ## The range -/

/-- Among all numbers, floating directives without flags and width give back a number, and
none of zero for one of at least one, exactly where the nearest binary64 number is finite. -/
theorem readsBack_iff_lt_infinityBound (rule : MismatchRule) (template : List Char)
    (precision : Option ℕ) (verb : Char) (number : Decimal)
    (floating : verb ∈ ['e', 'E', 'g', 'G']) (few : ∀ places ∈ precision, places ≤ 65535)
    (written : pieces template =
      [.directive { flags := Flags.ofChars [], width := none, precision } verb]) :
    ReadsBack rule template number ↔ |number.toRat| < 2 ^ 1024 - 2 ^ 970 := by
  obtain ⟨form, forms⟩ := exists_floatingForm precision floating
  have text_eq := forms.format_eq (fun places asked => Nat.le_trans (few places asked) (by decide))
    rule written number
  have range := Binary64.standsFor_nearest number
  generalize Binary64.Magnitude.nearest number = magnitude at text_eq range
  cases range with
  | infinite beyond =>
    refine iff_of_false ?_ (not_lt.2 beyond)
    rintro ⟨text, read, formatted, back, nonzero⟩
    rw [text_eq, Except.ok.injEq] at formatted
    rw [← formatted] at back
    exact nonzero (le_trans (le_of_lt Binary64.one_lt_infinityBound) beyond) (forms.infinite back)
  | finite below shape nonzero =>
    refine iff_of_true ?_ below
    obtain ⟨read, back, read_nonzero⟩ :=
      (forms.readable few shape).ofString (signText_signOf number.isNegative (Flags.ofChars []))
    exact ⟨_, read, text_eq, back, fun at_least => read_nonzero (nonzero at_least)⟩

/-- The bound itself and the integer in front of it. -/
theorem readsBack_iff_lt_infinityBound_at_bound :
    pieces "%.3g".toList =
        [.directive { flags := Flags.ofChars [], width := none, precision := some 3 } 'g'] ∧
      ReadsBack .mark "%.3g".toList (Decimal.ofInt (2 ^ 1024 - 2 ^ 970 - 1)) ∧
      ¬ ReadsBack .mark "%.3g".toList (Decimal.ofInt (2 ^ 1024 - 2 ^ 970)) := by
  have written : pieces "%.3g".toList =
      [.directive { flags := Flags.ofChars [], width := none, precision := some 3 } 'g'] := by
    decide +kernel
  have reads_back_iff (number : Decimal) :=
    readsBack_iff_lt_infinityBound .mark "%.3g".toList (some 3) 'g' number (by decide)
      (by simp) written
  have bound_pos : (0 : ℚ) < 2 ^ 1024 - 2 ^ 970 := lt_trans one_pos Binary64.one_lt_infinityBound
  have bound_ge : (1 : ℚ) ≤ 2 ^ 1024 - 2 ^ 970 := le_of_lt Binary64.one_lt_infinityBound
  rw [reads_back_iff, reads_back_iff, Decimal.toRat_ofInt, Decimal.toRat_ofInt]
  simp only [Int.cast_sub, Int.cast_pow, Int.cast_ofNat, Int.cast_one]
  rw [abs_of_nonneg (sub_nonneg.2 bound_ge), abs_of_pos bound_pos]
  exact ⟨written, sub_one_lt _, lt_irrefl _⟩

/-- Beyond the range, the exponent form is no literal and the general form is one of zero. -/
theorem not_readsBack_beyond_binary64 :
    ∃ number : Decimal, Decimal.ofString "1e400" = .ok number ∧ |number.scale| ≤ 100000 ∧
      ¬ ReadsBack .mark "%e".toList number ∧ ¬ ReadsBack .mark "%g".toList number := by
  let number : Decimal := ⟨1, -400, by decide, by decide⟩
  have read : Decimal.reading "1e400".toList = .number number := by decide +kernel
  have exponent_text : format .mark "%e".toList [.number number] = .ok "infe+00".toList := by
    decide +kernel
  have general_text : format .mark "%g".toList [.number number] = .ok ['0'] := by
    decide +kernel
  have unread : Decimal.reading "infe+00".toList = .refused := by decide +kernel
  have zero_read : Decimal.reading ['0'] = .number Decimal.zero := by decide +kernel
  refine ⟨number, Decimal.ofString_eq_ok_iff.2 read, by decide, ?_, ?_⟩
  · rintro ⟨text, back, formatted, reading, -⟩
    rw [exponent_text, Except.ok.injEq] at formatted
    rw [← formatted, Decimal.ofString_eq_ok_iff, String.toList_ofList, unread] at reading
    cases reading
  · rintro ⟨text, back, formatted, reading, nonzero⟩
    rw [general_text, Except.ok.injEq] at formatted
    rw [← formatted, Decimal.ofString_eq_ok_iff, String.toList_ofList, zero_read] at reading
    have at_least : 1 ≤ |number.toRat| := by
      rw [Decimal.abs_toRat]
      exact one_le_mul_of_one_le_of_one_le (by norm_num [number])
        (one_le_zpow₀ (by norm_num) (by norm_num [number]))
    exact nonzero at_least (Decimal.toRat_eq_zero_iff.2 (Decimal.Reading.number.inj reading ▸ rfl))

end PolicyBuiltins.Template
