/-
# Escaping percent signs

A text with `replace` writing each percent sign twice is a template for the text: `sprintf` has
nothing to fill in and takes the doubled signs back.  When mismatches are rejected there are no
other templates for it than these with flags, widths and precisions written into their percent
literals.
-/

import PolicyBuiltins.Proofs.Strings.IntegerFormatting
import PolicyBuiltins.Proofs.Strings.ReplaceSplit
import PolicyBuiltins.Proofs.Template.PercentLiterals

namespace PolicyBuiltins.Strings

open Template (PercentLiterals)

/-- A call of `sprintf` with a template and an array gives a text exactly if formatting does. -/
theorem call_sprintf_eq_defined_iff {settings : Settings} {template text : String}
    {arguments : List Value} :
    (Catalogue.standard settings).call "sprintf" [.string template, .array arguments] =
        .defined (.string text) ↔
      Template.format settings.mismatches template.toList arguments = .ok text.toList := by
  constructor
  · intro answered
    cases formatted : Template.format settings.mismatches template.toList arguments with
    | ok result =>
      rw [call_sprintf formatted] at answered
      injection answered with value_eq
      injection value_eq with text_eq
      rw [← text_eq, String.toList_ofList]
    | error failure =>
      have inside : ⟨"sprintf", 2, sprintf⟩ ∈ builtins := by simp [builtins]
      have failed : (Outcome.ofResult
          (Template.format settings.mismatches template.toList arguments >>=
            fun text => pure (.ofChars text))).mapFailure (·.inBuiltin "sprintf") =
          .defined (.string text) :=
        (Catalogue.call_standard inside rfl).symm.trans answered
      rw [formatted] at failed
      cases failed
  · intro formatted
    rw [call_sprintf formatted, Value.ofChars, String.ofList_toList]

/-- A call of `replace` that writes percent signs twice doubles them. -/
theorem call_replace_percent (settings : Settings) (text : String) :
    (Catalogue.standard settings).call "replace"
        [.string text, .string "%", .string "%%"] =
      .defined (.ofChars (text.toList.flatMap Template.doubled)) := by
  have replaced : Text.replace "%".toList "%%".toList text.toList =
      text.toList.flatMap Template.doubled := Text.replace_singleton '%' _ _
  rw [call_replace, replaced]

/-- Escaping percent signs makes a template for a text, whatever the settings.  When mismatches
are rejected, every template for the text has no other directives than percent literals, and
deleting what is written inside them makes it this one. -/
theorem percent_escaping_round_trips (settings : Settings) (text template : String) :
    ∃ draft, Draft.standard? = .ok draft ∧
      let call := (draft.withSettings settings).seal.call
      ∃ escaped : String,
        call "replace" [.string text, .string "%", .string "%%"] = .defined (.string escaped) ∧
        call "sprintf" [.string escaped, .array []] = .defined (.string text) ∧
        (settings.mismatches = .reject →
          (call "sprintf" [.string template, .array []] = .defined (.string text) ↔
            PercentLiterals template.toList escaped.toList) ∧
          (call "sprintf" [.string template, .array []] = .defined (.string text) →
            ∀ piece ∈ Template.pieces template.toList,
              (∃ c, piece = .literal c) ∨ ∃ spec, piece = .directive spec '%')) := by
  refine ⟨_, Draft.standard?_eq_ok, ?_⟩
  intro call
  have sprintf_iff (template : String) :
      call "sprintf" [.string template, .array []] = .defined (.string text) ↔
        Template.format settings.mismatches template.toList [] = .ok text.toList :=
    call_sprintf_eq_defined_iff
  refine ⟨String.ofList (text.toList.flatMap Template.doubled),
    call_replace_percent settings text, ?_, fun rejecting => ⟨?_, fun answered => ?_⟩⟩
  · rw [sprintf_iff, String.toList_ofList]
    exact Template.format_doubled settings.mismatches text.toList
  · rw [sprintf_iff, rejecting, String.toList_ofList]
    exact Template.format_reject_eq_ok_iff_percentLiterals
  · rw [sprintf_iff, rejecting] at answered
    exact Template.literal_or_percent_of_shows (Template.format_reject_nil_eq_ok_iff.1 answered)

/-- A percent literal with flags, a width and a precision written into it, in front of a point
and a digit that are not part of it. -/
theorem percent_escaping_round_trips_decorated :
    Settings.strict.mismatches = .reject ∧
      ∃ draft, Draft.standard? = .ok draft ∧
        let call := (draft.withSettings .strict).seal.call
        call "replace" [.string "5%.2% off", .string "%", .string "%%"] =
          .defined (.string "5%%.2%% off") ∧
        call "sprintf" [.string "5%-08.3%.2%% off", .array []] =
          .defined (.string "5%.2% off") ∧
        PercentLiterals "5%-08.3%.2%% off".toList "5%%.2%% off".toList := by
  have rejecting : Settings.strict.mismatches = .reject := rfl
  obtain ⟨draft, registered, escaped, replaced, -, strict⟩ :=
    percent_escaping_round_trips .strict "5%.2% off" "5%-08.3%.2%% off"
  obtain ⟨accepted, -⟩ := strict rejecting
  rw [Draft.standard?_eq_ok, Except.ok.injEq] at registered
  subst registered
  have doubled : "5%.2% off".toList.flatMap Template.doubled = "5%%.2%% off".toList := by decide
  obtain rfl : escaped = "5%%.2%% off" := by
    have same := replaced.symm.trans (call_replace_percent .strict "5%.2% off")
    rw [doubled, Value.ofChars, String.ofList_toList] at same
    injection same with value_eq
    injection value_eq
  have formatted : Template.format Settings.strict.mismatches "5%-08.3%.2%% off".toList [] =
      .ok "5%.2% off".toList := by decide +kernel
  have answered := call_sprintf_eq_defined_iff.2 formatted
  exact ⟨rejecting, _, Draft.standard?_eq_ok, replaced, answered, accepted.1 answered⟩

end PolicyBuiltins.Strings
