/-
# Templates of percent literals

Without arguments, the only directives that do not disagree with them are those whose verb is
another percent sign.  Such a directive shows a percent sign whatever flags, width and precision
are written in it, as long as these counts are within the limit.

When mismatches are rejected, the templates with a text are therefore those whose directives
are all of this kind.  Deleting what is written inside them leaves the text with its percent
signs doubled, and that is also a template for the same text.
-/

import PolicyBuiltins.Proofs.Template.DirectiveText
import PolicyBuiltins.Proofs.Template.Mismatches
import PolicyBuiltins.Proofs.Template.SingleDirective

namespace PolicyBuiltins.Template

/-- A character as it is written in a template: a percent sign twice, any other one once. -/
def doubled (c : Char) : List Char :=
  if c = '%' then ['%', '%'] else [c]

/-- A template without other directives than percent literals with their counts allowed, and
the same template with the flags, widths and precisions in them deleted. -/
inductive PercentLiterals : List Char → List Char → Prop
  | nil : PercentLiterals [] []
  | literal {c : Char} {template bare : List Char} (other : c ≠ '%')
      (behind : PercentLiterals template bare) : PercentLiterals (c :: template) (c :: bare)
  | percent {spec : Spec} {directive template bare : List Char}
      (written : DirectiveText '%' spec directive) (allowed : spec.Allowed)
      (behind : PercentLiterals template bare) :
      PercentLiterals (directive ++ template) ('%' :: '%' :: bare)

/-- A piece that shows a character without an argument and without a mismatch. -/
inductive Piece.Shows : Piece → Char → Prop
  | literal (c : Char) : Shows (.literal c) c
  | percent {spec : Spec} (allowed : spec.Allowed) : Shows (.directive spec '%') '%'

/-! ## Pieces without arguments -/

theorem Spec.overlargeCounts_eq_nil_iff {spec : Spec} :
    spec.overlargeCounts = [] ↔ spec.Allowed := by
  have within (count : Option ℕ) (mismatch : Mismatch) :
      (if count.any (maxCount < ·) then [mismatch] else []) = [] ↔
        ∀ asked ∈ count, asked ≤ maxCount := by
    cases count <;> simp
  rw [overlargeCounts, List.append_eq_nil_iff, within, within]
  constructor
  · intro both
    exact ⟨both.1, both.2⟩
  · intro allowed
    exact ⟨allowed.width_le, allowed.precision_le⟩

theorem Piece.mismatches_none_eq_nil_iff {piece : Piece} :
    piece.mismatches none = [] ↔ ∃ c, piece.Shows c := by
  constructor
  · intro none_found
    cases piece with
    | literal c => exact ⟨c, .literal c⟩
    | directive spec verb =>
      obtain ⟨counts, verb_found⟩ := List.append_eq_nil_iff.1 none_found
      by_cases percent : verb = '%'
      · rw [percent]
        exact ⟨'%', .percent (Spec.overlargeCounts_eq_nil_iff.1 counts)⟩
      · rw [if_neg percent] at verb_found
        cases verb_found
    | unfinished spec => cases (List.append_eq_nil_iff.1 none_found).2
  · rintro ⟨c, shows⟩
    cases shows with
    | literal => rfl
    | percent allowed =>
      rw [mismatches, Spec.overlargeCounts_eq_nil_iff.2 allowed]
      rfl

theorem Piece.Shows.text_parts {piece : Piece} {c : Char} (shows : piece.Shows c) :
    (piece.parts none).flatMap Part.text = [c] := by
  cases shows with
  | literal => rfl
  | percent allowed =>
    rw [parts, Spec.overlargeCounts_eq_nil_iff.2 allowed]
    rfl

/-- Every piece of a template that shows a text stands for itself or is a percent literal. -/
theorem literal_or_percent_of_shows {template : List Piece} {text : List Char}
    (shown : List.Forall₂ Piece.Shows template text) :
    ∀ piece ∈ template, (∃ c, piece = .literal c) ∨ ∃ spec, piece = .directive spec '%' := by
  induction shown with
  | nil => exact List.forall_mem_nil _
  | cons shows _ ih =>
    refine List.forall_mem_cons.2 ⟨?_, ih⟩
    cases shows with
    | literal => exact .inl ⟨_, rfl⟩
    | percent => exact .inr ⟨_, rfl⟩

/-- Without arguments, pieces have no mismatches exactly if each of them shows a character. -/
theorem mismatches_eq_nil_and_text_iff {template : List Piece} {text : List Char} :
    mismatches template [] = [] ∧ (parts template []).flatMap Part.text = text ↔
      List.Forall₂ Piece.Shows template text := by
  induction template generalizing text with
  | nil =>
    rw [List.forall₂_nil_left_iff]
    exact ⟨fun ⟨_, text_eq⟩ => text_eq.symm, fun empty => ⟨rfl, empty.symm⟩⟩
  | cons piece others ih =>
    have none_left : piece.remaining [] = [] := by
      unfold Piece.remaining
      split <;> rfl
    rw [mismatches, parts, none_left, List.append_eq_nil_iff, List.flatMap_append,
      List.head?_nil, Piece.mismatches_none_eq_nil_iff]
    constructor
    · rintro ⟨⟨⟨c, shows⟩, none_found⟩, rfl⟩
      rw [shows.text_parts]
      exact .cons shows (ih.1 ⟨none_found, rfl⟩)
    · intro shown
      cases shown with
      | @cons _ c _ rest shows shown =>
        obtain ⟨none_found, rest_eq⟩ := ih.2 shown
        rw [shows.text_parts, rest_eq]
        exact ⟨⟨⟨c, shows⟩, none_found⟩, rfl⟩

/-! ## Templates without arguments -/

/-- A text that is given where mismatches are rejected is given under every rule. -/
theorem format_eq_ok_of_reject {template : List Char} {arguments : List Value}
    {text : List Char} (strict : format .reject template arguments = .ok text)
    (rule : MismatchRule) : format rule template arguments = .ok text := by
  cases rule with
  | reject => exact strict
  | mark =>
    rw [format_reject] at strict
    split at strict
    next => exact strict
    next => cases strict

theorem format_reject_nil_eq_ok_iff {template text : List Char} :
    format .reject template [] = .ok text ↔ List.Forall₂ Piece.Shows (pieces template) text := by
  rw [format_reject, ← mismatches_eq_nil_and_text_iff, format_mark]
  cases mismatches (pieces template) [] with
  | nil => simp
  | cons first later => simp

/-- A character as it is written in a template begins with itself. -/
theorem doubled_eq_cons (c : Char) : doubled c = c :: if c = '%' then ['%'] else [] := by
  unfold doubled
  split
  next percent => rw [percent]
  next => rfl

/-- A template whose pieces show a text leaves it with its percent signs doubled. -/
theorem percentLiterals_of_shows {template text : List Char}
    (shown : List.Forall₂ Piece.Shows (pieces template) text) :
    PercentLiterals template (text.flatMap doubled) := by
  fun_induction pieces template generalizing text with
  | case1 =>
    rw [List.forall₂_nil_left_iff.1 shown]
    exact .nil
  | case2 rest spec read =>
    cases shown with
    | cons shows => cases shows
  | case3 rest spec verb behind read _ ih =>
    cases shown with
    | cons shows shown =>
      cases shows with
      | percent allowed =>
        obtain ⟨directive, template_eq, written⟩ := exists_directiveText read
        rw [template_eq]
        exact .percent written allowed (ih shown)
  | case4 c rest other ih =>
    cases shown with
    | cons shows shown =>
      cases shows with
      | literal =>
        rw [List.flatMap_cons, doubled, if_neg other]
        exact .literal other (ih shown)

/-- Percent literals are read as they are written, whatever follows them. -/
theorem pieces_percent_append {spec : Spec} {directive : List Char}
    (written : DirectiveText '%' spec directive) (template : List Char) :
    pieces (directive ++ template) = .directive spec '%' :: pieces template := by
  have ends : EndsSpec '%' := ⟨by decide, by decide, by decide⟩
  have read := written.pieces_eq ends
  rw [pieces_append (by simp [read]), read, List.singleton_append]

/-- The pieces of a template that leaves a text with its percent signs doubled show the text. -/
theorem PercentLiterals.shows {template text : List Char}
    (stripped : PercentLiterals template (text.flatMap doubled)) :
    List.Forall₂ Piece.Shows (pieces template) text := by
  generalize bare_eq : text.flatMap doubled = bare at stripped
  induction stripped generalizing text with
  | nil =>
    cases text with
    | nil =>
      rw [pieces]
      exact .nil
    | cons d text =>
      rw [List.flatMap_cons, doubled_eq_cons] at bare_eq
      cases bare_eq
  | literal other _ ih =>
    cases text with
    | nil => cases bare_eq
    | cons d text =>
      rw [List.flatMap_cons, doubled_eq_cons] at bare_eq
      obtain ⟨rfl, rest_eq⟩ := List.cons.inj bare_eq
      rw [if_neg other] at rest_eq
      rw [pieces, if_neg other]
      exact .cons (.literal d) (ih rest_eq)
  | percent written allowed _ ih =>
    cases text with
    | nil => cases bare_eq
    | cons d text =>
      rw [List.flatMap_cons, doubled_eq_cons] at bare_eq
      obtain ⟨rfl, rest_eq⟩ := List.cons.inj bare_eq
      rw [if_pos rfl] at rest_eq
      rw [pieces_percent_append written]
      exact .cons (.percent allowed) (ih (List.cons.inj rest_eq).2)

/-- When mismatches are rejected, the templates that show a text without arguments are those
that leave it with its percent signs doubled. -/
theorem format_reject_eq_ok_iff_percentLiterals {template text : List Char} :
    format .reject template [] = .ok text ↔
      PercentLiterals template (text.flatMap doubled) :=
  format_reject_nil_eq_ok_iff.trans ⟨percentLiterals_of_shows, PercentLiterals.shows⟩

/-- A text with its percent signs doubled has nothing to be deleted. -/
theorem percentLiterals_doubled (text : List Char) :
    PercentLiterals (text.flatMap doubled) (text.flatMap doubled) := by
  induction text with
  | nil => exact .nil
  | cons c text ih =>
    rw [List.flatMap_cons, doubled]
    split
    next =>
      have written : DirectiveText '%' ⟨Flags.ofChars [], none, none⟩ ['%', '%'] :=
        .intro (List.forall_mem_nil _) .absent .absent
      exact .percent written ⟨by simp, by simp⟩ ih
    next other => exact .literal other ih

/-- A text with its percent signs doubled shows the text under every rule. -/
theorem format_doubled (rule : MismatchRule) (text : List Char) :
    format rule (text.flatMap doubled) [] = .ok text :=
  format_eq_ok_of_reject
    (format_reject_eq_ok_iff_percentLiterals.2 (percentLiterals_doubled text)) rule

end PolicyBuiltins.Template
