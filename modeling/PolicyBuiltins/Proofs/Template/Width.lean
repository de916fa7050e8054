/-
# What a width adds

A directive with a width writes what it writes without one, and fills it up to the width:
spaces behind it under the minus flag, zeros behind its sign and radix mark under the zero
flag if it shows a number that may have zeros in front, and else spaces in front.  A text that
is long enough stays as it is.

A precision above the limit is reported before the directive writes anything.  Where
mismatches are marked, the marker is no part of what the width fills up.
-/

import PolicyBuiltins.Proofs.Decimal.TextReading
import PolicyBuiltins.Proofs.Template.DirectiveText
import PolicyBuiltins.Proofs.Template.Mismatches
import PolicyBuiltins.Proofs.Template.SingleDirective

namespace PolicyBuiltins.Template

/-- The sign and radix mark of an argument that a verb shows as a number, behind which zeros
may be put in.  The digits of an integer with a precision are counted already. -/
inductive NumberLead (flags : Flags) (precision : Option ℕ) : Verb → Value → List Char → Prop
  | integer {radix : Radix} {number : Decimal} (free : precision = none) :
      NumberLead flags precision (.integer radix) (.number number)
        (signOf number.isNegative flags ++ radix.lead flags)
  | fixed {number : Decimal} :
      NumberLead flags precision .fixed (.number number) (signOf number.isNegative flags)
  | exponent {upper : Bool} {number : Decimal} :
      NumberLead flags precision (.exponent upper) (.number number)
        (signOf number.isNegative flags)
  | general {upper : Bool} {number : Decimal} :
      NumberLead flags precision (.general upper) (.number number)
        (signOf number.isNegative flags)

/-- A text filled up to a number of columns. -/
structure IsWidened (flags : Flags) (precision : Option ℕ) (kind : Verb) (argument : Value)
    (columns : ℕ) (text padded : List Char) : Prop where
  length_eq : padded.length = max columns text.length
  left : flags.minus = true →
    padded = text ++ List.replicate (columns - text.length) ' '
  zeros : flags.minus = false → flags.zero = true →
    ∀ lead, NumberLead flags precision kind argument lead →
      ∃ body, text = lead ++ body ∧
        padded = lead ++ (List.replicate (columns - text.length) '0' ++ body)
  right : flags.minus = false →
    (flags.zero = false ∨ ∀ lead, ¬ NumberLead flags precision kind argument lead) →
      padded = List.replicate (columns - text.length) ' ' ++ text

/-! ## Layout -/

theorem layOut_without_width (flags : Flags) (precision : Option ℕ) (zeroFill : Bool)
    (lead body : List Char) :
    layOut { flags, width := none, precision } zeroFill lead body = lead ++ body := by
  simp [layOut]

/-- A lead and a body laid out are widened, if zeros may fill them where a number is shown. -/
theorem isWidened_layOut {flags : Flags} {precision : Option ℕ} {kind : Verb}
    {argument : Value} {zeroFill : Bool} {lead body : List Char}
    (shown : ∀ lead', NumberLead flags precision kind argument lead' ↔
      zeroFill = true ∧ lead' = lead)
    (columns : ℕ) (precision' : Option ℕ) :
    IsWidened flags precision kind argument columns (lead ++ body)
      (layOut { flags, width := some columns, precision := precision' } zeroFill lead body) where
  length_eq := by
    simp only [layOut, Option.getD_some]
    split_ifs <;> simp only [List.length_append, List.length_replicate] <;> omega
  left := by
    intro minus
    rw [layOut, if_pos minus, List.length_append]
    rfl
  zeros := by
    intro minus zero lead' leads
    obtain ⟨fill, rfl⟩ := (shown lead').1 leads
    refine ⟨body, rfl, ?_⟩
    rw [layOut, if_neg (by simp [minus]), if_pos (by simp [zero, fill]), List.length_append,
      List.append_assoc]
    rfl
  right := by
    intro minus unfilled
    have no_zeros : (flags.zero && zeroFill) = false := by
      rcases unfilled with zero | shows_none
      · rw [zero, Bool.false_and]
      · rw [Bool.eq_false_of_not_eq_true fun fill => shows_none lead ((shown lead).2 ⟨fill, rfl⟩),
          Bool.and_false]
    rw [layOut, if_neg (by simp [minus]), if_neg (by simp [no_zeros]), List.length_append,
      List.append_assoc]
    rfl

/-! ## Verbs -/

section
variable {flags : Flags} {precision : Option ℕ} {kind : Verb} {argument : Value}
  {lead body : List Char}

theorem NumberLead.unique {other : List Char}
    (leads : NumberLead flags precision kind argument lead)
    (other_leads : NumberLead flags precision kind argument other) : other = lead := by
  cases leads <;> cases other_leads <;> rfl

/-- The layout of an argument whatever the width is.  Zeros may fill it exactly where its lead
is that of a number. -/
structure LaysOut (flags : Flags) (precision : Option ℕ) (kind : Verb) (argument : Value)
    (zeroFill : Bool) (lead body : List Char) : Prop where
  render_eq (width : Option ℕ) : kind.render { flags, width, precision } argument =
    some (layOut { flags, width, precision } zeroFill lead body)
  numberLead_iff (other : List Char) :
    NumberLead flags precision kind argument other ↔ zeroFill = true ∧ other = lead

/-- A verb that shows a number lays out its lead and its digits. -/
theorem laysOut_of_numberLead
    (rendered : ∀ width, kind.render { flags, width, precision } argument =
      some (layOut { flags, width, precision } true lead body))
    (leads : NumberLead flags precision kind argument lead) :
    LaysOut flags precision kind argument true lead body where
  render_eq := rendered
  numberLead_iff other := by
    constructor
    · intro other_leads
      exact ⟨rfl, leads.unique other_leads⟩
    · rintro ⟨-, rfl⟩
      exact leads

/-- What is no number, or a number whose digits are counted already, is not filled by zeros. -/
theorem laysOut_of_forall_not_numberLead
    (rendered : ∀ width, kind.render { flags, width, precision } argument =
      some (layOut { flags, width, precision } false lead body))
    (absent : ∀ other, ¬ NumberLead flags precision kind argument other) :
    LaysOut flags precision kind argument false lead body where
  render_eq := rendered
  numberLead_iff other := iff_of_false (absent other) (by simp)

/-- The floating verbs lay out a sign and a body. -/
theorem laysOut_floatText {number : Decimal}
    (rendered : ∀ width, kind.render { flags, width, precision } (.number number) =
      some (floatText { flags, width, precision } number body))
    (leads : NumberLead flags precision kind (.number number)
      (signOf number.isNegative flags)) :
    LaysOut flags precision kind (.number number) true (signOf number.isNegative flags) body :=
  laysOut_of_numberLead rendered leads

/-- The digits of an integer may have zeros in front unless a precision counts them. -/
theorem laysOut_integer {number : Decimal} {radix : Radix} (whole : number.isInteger = true) :
    LaysOut flags precision (.integer radix) (.number number) precision.isNone
      (signOf number.isNegative flags ++ radix.lead flags)
      (Numeral.padded (precision.getD 0)
        (radix.inCase (Numeral.ofNat radix.base number.truncate.natAbs))) := by
  have negative_eq : decide (number.truncate < 0) = number.isNegative := by
    rw [Decimal.isNegative, decide_eq_decide, Decimal.truncate_neg_iff whole]
  have rendered (width : Option ℕ) : Verb.render (.integer radix) { flags, width, precision }
      (.number number) = some (layOut { flags, width, precision } precision.isNone
        (signOf number.isNegative flags ++ radix.lead flags)
        (Numeral.padded (precision.getD 0)
          (radix.inCase (Numeral.ofNat radix.base number.truncate.natAbs)))) := by
    simp only [Verb.render, if_pos whole, integerText, negative_eq]
  cases precision with
  | none => exact laysOut_of_numberLead rendered (.integer rfl)
  | some places => exact laysOut_of_forall_not_numberLead rendered (by rintro _ ⟨⟨⟩⟩)

theorem laysOut_character {number : Decimal}
    (accepted : Verb.character.accepts (.number number) = true) :
    LaysOut flags precision .character (.number number) false [] [characterOf number.truncate] := by
  have word : number.toWord? = some number.truncate := by
    simp only [Verb.accepts, Bool.and_eq_true, decide_eq_true_eq] at accepted
    rw [Decimal.toWord?, if_pos accepted]
  refine laysOut_of_forall_not_numberLead (fun width => ?_) (by rintro _ ⟨⟩)
  simp only [Verb.render, Value.asNumber?, Option.bind_some, word, Option.map_some, layOutText]

end

/-- Every verb lays out a lead and a body that do not depend on the width. -/
theorem Verb.exists_laysOut {kind : Verb} {argument : Value}
    (accepted : kind.accepts argument = true) (flags : Flags) (precision : Option ℕ) :
    ∃ zeroFill lead body, LaysOut flags precision kind argument zeroFill lead body := by
  let bare : Spec := { flags, width := none, precision }
  cases kind with
  | text =>
    exact ⟨false, [], cutToPrecision bare argument.plainText,
      laysOut_of_forall_not_numberLead (fun width => rfl) (by rintro _ ⟨⟩)⟩
  | quoted =>
    exact ⟨false, [], Text.quoted (cutToPrecision bare argument.plainText),
      laysOut_of_forall_not_numberLead (fun width => rfl) (by rintro _ ⟨⟩)⟩
  | truth =>
    cases argument with
    | bool truth =>
      exact ⟨false, [], _, laysOut_of_forall_not_numberLead (fun width => rfl) (by rintro _ ⟨⟩)⟩
    | _ => cases accepted
  | integer radix =>
    cases argument with
    | number number => exact ⟨_, _, _, laysOut_integer accepted⟩
    | string content =>
      cases radix with
      | hexadecimal upper =>
        let digits := content.toUTF8.toList.flatMap fun byte =>
          Numeral.padded 2 (Numeral.ofNat 16 byte.toNat)
        exact ⟨false, [],
          (Radix.hexadecimal upper).lead flags ++ (Radix.hexadecimal upper).inCase digits,
          laysOut_of_forall_not_numberLead (fun width => rfl) (by rintro _ ⟨⟩)⟩
      | _ => cases accepted
    | _ => cases accepted
  | character =>
    cases argument with
    | number number => exact ⟨_, _, _, laysOut_character accepted⟩
    | _ => cases accepted
  | fixed =>
    cases argument with
    | number number =>
      let places := precision.getD defaultPrecision
      exact ⟨true, _, Decimal.pointed (number.unitsAt places) places,
        laysOut_floatText (fun width => rfl) .fixed⟩
    | _ => cases accepted
  | exponent upper =>
    cases argument with
    | number number =>
      exact ⟨true, _, exponentForm upper (precision.getD defaultPrecision) (.nearest number),
        laysOut_floatText (fun width => rfl) .exponent⟩
    | _ => cases accepted
  | general upper =>
    cases argument with
    | number number =>
      exact ⟨true, _, generalForm upper precision (.nearest number),
        laysOut_floatText (fun width => rfl) .general⟩
    | _ => cases accepted

/-! ## Directives -/

/-- Limiting a precision keeps whether there is one. -/
theorem numberLead_limited_iff {flags : Flags} {precision : Option ℕ} {kind : Verb}
    {argument : Value} {lead : List Char} (limit : ℕ → ℕ) :
    NumberLead flags (precision.map limit) kind argument lead ↔
      NumberLead flags precision kind argument lead := by
  constructor
  · intro leads
    cases leads with
    | integer free => exact .integer (Option.map_eq_none_iff.1 free)
    | fixed => exact .fixed
    | exponent => exact .exponent
    | general => exact .general
  · intro leads
    cases leads with
    | integer free => exact .integer (Option.map_eq_none_iff.2 free)
    | fixed => exact .fixed
    | exponent => exact .exponent
    | general => exact .general

/-- Without a width that is too large, only the precision is reported. -/
theorem reportCounts_eq_reportWhen (rule : MismatchRule) {spec : Spec}
    (width_le : ∀ columns ∈ spec.width, columns ≤ maxCount) :
    reportCounts rule spec =
      reportWhen (spec.precision.any (maxCount < ·)) rule .badPrecision := by
  have unreported : spec.width.any (maxCount < ·) = false := by
    cases width : spec.width with
    | none => rfl
    | some columns => exact decide_eq_false (Nat.not_lt.2 (width_le columns width))
  rw [reportCounts, unreported]
  cases reportWhen (spec.precision.any (maxCount < ·)) rule .badPrecision with
  | error failure => rfl
  | ok report => rfl

section
variable {verb : Char} {kind : Verb} (named : Verb.ofChar? verb = some kind)
include named

/-- A directive with an allowed width reports its precision and lays its argument out. -/
theorem format_eq_reportWhen (rule : MismatchRule) {spec : Spec} {template text : List Char}
    {argument : Value} (written : DirectiveText verb spec template)
    (width_le : ∀ columns ∈ spec.width, columns ≤ maxCount)
    (rendered : kind.render spec.limited argument = some text) :
    format rule template [argument] =
      (reportWhen (spec.precision.any (maxCount < ·)) rule .badPrecision).map (· ++ text) := by
  obtain ⟨ends, not_percent⟩ := Verb.endsSpec_of_ofChar? named
  rw [format_eq_reportCounts (written.pieces_eq ends) not_percent,
    reportCounts_eq_reportWhen rule width_le]
  simp only [renderArgument, named, rendered]
  cases reportWhen (spec.precision.any (maxCount < ·)) rule .badPrecision with
  | error failure => rfl
  | ok report => rfl

/-- With a width, what a directive shows behind its reports is widened. -/
theorem exists_isWidened (rule : MismatchRule) {argument : Value}
    (accepted : kind.accepts argument = true) {flags : Flags} {precision : Option ℕ}
    {columns : ℕ} (columns_le : columns ≤ maxCount) {wide narrow : List Char}
    (wide_written : DirectiveText verb { flags, width := some columns, precision } wide)
    (narrow_written : DirectiveText verb { flags, width := none, precision } narrow) :
    ∃ text padded, IsWidened flags precision kind argument columns text padded ∧
      format rule narrow [argument] =
        (reportWhen (precision.any (maxCount < ·)) rule .badPrecision).map (· ++ text) ∧
      format rule wide [argument] =
        (reportWhen (precision.any (maxCount < ·)) rule .badPrecision).map (· ++ padded) := by
  let limited := precision.map fun places => if places ≤ maxCount then places else 0
  obtain ⟨zeroFill, lead, body, laid_out⟩ := Verb.exists_laysOut accepted flags limited
  have shown := laid_out.numberLead_iff
  simp only [limited, numberLead_limited_iff] at shown
  have kept : Option.filter (· ≤ maxCount) (some columns) = some columns :=
    Option.filter_some_pos (decide_eq_true columns_le)
  refine ⟨lead ++ body, _, isWidened_layOut shown columns limited, ?_, ?_⟩
  · refine format_eq_reportWhen named rule narrow_written (by simp) ?_
    rw [← layOut_without_width flags limited zeroFill lead body]
    exact laid_out.render_eq none
  · refine format_eq_reportWhen named rule wide_written (by simpa using columns_le) ?_
    rw [Spec.limited, kept]
    exact laid_out.render_eq (some columns)

end

/-- A width only fills up what a directive shows: with it the text has as many characters as the
width or as many as before, whichever is more, and the rest is spaces or zeros in the one place
for them.  A precision above the limit is reported first, and the report is not counted. -/
theorem width_only_pads (rule : MismatchRule) {verb : Char} {kind : Verb}
    (named : Verb.ofChar? verb = some kind) {argument : Value}
    (accepted : kind.accepts argument = true) {flags : Flags} {precision : Option ℕ}
    {columns : ℕ} (columns_le : columns ≤ 1000000) {wide narrow : List Char}
    (wide_written : DirectiveText verb { flags, width := some columns, precision } wide)
    (narrow_written : DirectiveText verb { flags, width := none, precision } narrow) :
    ((∀ places ∈ precision, places ≤ 1000000) →
      ∃ text padded, format rule narrow [argument] = .ok text ∧
        format rule wide [argument] = .ok padded ∧
        IsWidened flags precision kind argument columns text padded) ∧
    ∀ places ∈ precision, 1000000 < places →
      (rule = .mark → ∃ text padded,
        format rule narrow [argument] = .ok ("%!(BADPREC)".toList ++ text) ∧
        format rule wide [argument] = .ok ("%!(BADPREC)".toList ++ padded) ∧
        IsWidened flags precision kind argument columns text padded) ∧
      (rule = .reject → ∀ template ∈ [narrow, wide], format rule template [argument] =
        .error { cause := .format "precision exceeds 1000000" }) := by
  obtain ⟨text, padded, widened, narrow_eq, wide_eq⟩ :=
    exists_isWidened named rule accepted columns_le wide_written narrow_written
  constructor
  · intro few
    have unreported : precision.any (maxCount < ·) = false := by
      cases precision with
      | none => rfl
      | some places => exact decide_eq_false (Nat.not_lt.2 (few places rfl))
    rw [unreported] at narrow_eq wide_eq
    exact ⟨text, padded, narrow_eq, wide_eq, widened⟩
  · rintro places asked many
    obtain rfl : precision = some places := asked
    have reported : (some places).any (maxCount < ·) = true := decide_eq_true many
    rw [reported] at narrow_eq wide_eq
    constructor
    · rintro rfl
      exact ⟨text, padded, narrow_eq, wide_eq, widened⟩
    · rintro rfl
      have failure_eq : report .reject .badPrecision =
          .error { cause := .format "precision exceeds 1000000" } := by decide +kernel
      rw [reportWhen, if_pos rfl, failure_eq] at narrow_eq wide_eq
      simpa using ⟨narrow_eq, wide_eq⟩

/-- Zeros stand behind the sign and the mark of a negative number. -/
theorem width_only_pads_zero_filled :
    Verb.ofChar? 'x' = some (.integer (.hexadecimal false)) ∧
      Verb.accepts (.integer (.hexadecimal false)) (.ofInt (-255)) = true ∧
      DirectiveText 'x' ⟨Flags.ofChars ['0', '#'], some 8, none⟩ "%0#8x".toList ∧
      DirectiveText 'x' ⟨Flags.ofChars ['0', '#'], none, none⟩ "%0#x".toList ∧
      format .mark "%0#x".toList [.ofInt (-255)] = .ok "-0xff".toList ∧
      format .mark "%0#8x".toList [.ofInt (-255)] = .ok "-0x000ff".toList ∧
      IsWidened (Flags.ofChars ['0', '#']) none (.integer (.hexadecimal false)) (.ofInt (-255)) 8
        "-0xff".toList "-0x000ff".toList := by
  have accepted : Verb.accepts (.integer (.hexadecimal false)) (.ofInt (-255)) = true := by
    decide +kernel
  have wide_written : DirectiveText 'x' ⟨Flags.ofChars ['0', '#'], some 8, none⟩
      "%0#8x".toList :=
    .intro (List.all_eq_true.1 (by decide))
      (@WidthText.present ['8'] ⟨by decide, List.all_eq_true.1 (by decide)⟩ (by decide)) .absent
  have narrow_written : DirectiveText 'x' ⟨Flags.ofChars ['0', '#'], none, none⟩
      "%0#x".toList :=
    .intro (List.all_eq_true.1 (by decide)) .absent .absent
  have narrow_text : format .mark "%0#x".toList [.ofInt (-255)] = .ok "-0xff".toList := by
    decide +kernel
  have wide_text : format .mark "%0#8x".toList [.ofInt (-255)] = .ok "-0x000ff".toList := by
    decide +kernel
  obtain ⟨text, padded, narrow_eq, wide_eq, widened⟩ :=
    (width_only_pads .mark rfl accepted (by decide) wide_written narrow_written).1 (by simp)
  obtain rfl := Except.ok.inj (narrow_eq.symm.trans narrow_text)
  obtain rfl := Except.ok.inj (wide_eq.symm.trans wide_text)
  exact ⟨rfl, accepted, wide_written, narrow_written, narrow_text, wide_text, widened⟩

/-- The marker for a precision that is too large is not counted in the width. -/
theorem not_widened_with_marker :
    Verb.ofChar? 'd' = some (.integer .decimal) ∧
      Verb.accepts (.integer .decimal) (.ofInt 5) = true ∧
      DirectiveText 'd' ⟨Flags.ofChars [], some 20, some 1000001⟩ "%20.1000001d".toList ∧
      DirectiveText 'd' ⟨Flags.ofChars [], none, some 1000001⟩ "%.1000001d".toList ∧
      ∃ text padded, format .mark "%.1000001d".toList [.ofInt 5] = .ok text ∧
        format .mark "%20.1000001d".toList [.ofInt 5] = .ok padded ∧
        padded.length ≠ max 20 text.length ∧
        padded ≠ List.replicate (20 - text.length) ' ' ++ text := by
  have precise : PrecisionText (some 1000001) ".1000001".toList :=
    @PrecisionText.present "1000001".toList ⟨by decide, List.all_eq_true.1 (by decide)⟩
  have narrow_text : format .mark "%.1000001d".toList [.ofInt 5] =
      .ok "%!(BADPREC)5".toList := by decide +kernel
  have wide_text : format .mark "%20.1000001d".toList [.ofInt 5] =
      .ok "%!(BADPREC)                   5".toList := by decide +kernel
  have wide_written : DirectiveText 'd' ⟨Flags.ofChars [], some 20, some 1000001⟩
      "%20.1000001d".toList :=
    .intro (List.forall_mem_nil _)
      (@WidthText.present "20".toList ⟨by decide, List.all_eq_true.1 (by decide)⟩ (by decide))
      precise
  have narrow_written : DirectiveText 'd' ⟨Flags.ofChars [], none, some 1000001⟩
      "%.1000001d".toList :=
    .intro (List.forall_mem_nil _) .absent precise
  exact ⟨rfl, by decide +kernel, wide_written, narrow_written, _, _, narrow_text, wide_text,
    by decide, by decide⟩

end PolicyBuiltins.Template
