/-
# Templates of one directive

A template that is one directive shows its argument and nothing else, as long as the counts
of the directive are within the limit.  A number laid out in it is a sign, fill, and a body:
zeros can only come between sign and body, and spaces only at the two ends.
-/

import PolicyBuiltins.Proofs.Decimal.Grammar
import PolicyBuiltins.Template.Formatting

namespace PolicyBuiltins.Template

open Decimal (SignText)

/-- A template that is one directive reports its counts and shows its argument. -/
theorem format_eq_reportCounts {rule : MismatchRule} {template : List Char} {spec : Spec}
    {verb : Char} (written : pieces template = [.directive spec verb]) (not_percent : verb ≠ '%')
    (argument : Value) :
    format rule template [argument] = (do
      let counts ← reportCounts rule spec
      let text ← renderArgument rule spec verb argument
      return counts ++ text) := by
  simp only [format, written, renderPieces, renderDirective, if_neg not_percent]
  cases reportCounts rule spec with
  | error failure => rfl
  | ok counts =>
    cases renderArgument rule spec verb argument with
    | error failure => rfl
    | ok text => simp [bind, Except.bind, pure, Except.pure]

/-! ## Counts within the limit -/

/-- A specification whose width and precision are not too large. -/
structure Spec.Allowed (spec : Spec) : Prop where
  width_le : ∀ width ∈ spec.width, width ≤ maxCount
  precision_le : ∀ precision ∈ spec.precision, precision ≤ maxCount

section
variable {spec : Spec} (allowed : spec.Allowed)
include allowed

theorem limited_of_allowed : spec.limited = spec := by
  obtain ⟨flags, width, precision⟩ := spec
  obtain ⟨width_le, precision_le⟩ := allowed
  have width_kept : width.filter (· ≤ maxCount) = width := by
    cases width with
    | none => rfl
    | some asked => exact Option.filter_some_pos (decide_eq_true (width_le asked rfl))
  rw [Spec.limited, width_kept]
  cases precision with
  | none => rfl
  | some places => rw [Option.map_some, if_pos (precision_le places rfl)]

/-- Counts within the limit are not reported. -/
theorem reportCounts_of_allowed (rule : MismatchRule) : reportCounts rule spec = .ok [] := by
  have unreported (count : Option ℕ) (count_le : ∀ asked ∈ count, asked ≤ maxCount) :
      count.any (maxCount < ·) = false := by
    cases count with
    | none => rfl
    | some asked => exact decide_eq_false (Nat.not_lt.2 (count_le asked rfl))
  simp only [reportCounts, reportWhen, unreported spec.width allowed.width_le,
    unreported spec.precision allowed.precision_le, Bool.false_eq_true, ↓reduceIte]
  rfl

/-- A template that is one directive with its counts allowed shows its argument. -/
theorem format_directive {rule : MismatchRule} {template : List Char} {verb : Char}
    (written : pieces template = [.directive spec verb]) (not_percent : verb ≠ '%')
    (argument : Value) :
    format rule template [argument] = renderArgument rule spec verb argument := by
  rw [format_eq_reportCounts written not_percent, reportCounts_of_allowed allowed]
  cases renderArgument rule spec verb argument with
  | error failure => rfl
  | ok text => rfl

end

/-! ## Numbers laid out -/

/-- The sign in front of a number is the one that it has without the space flag, perhaps behind
a space. -/
theorem exists_signOf_eq (negative : Bool) (flags : Flags) :
    ∃ space, signOf negative flags = space ++ signOf negative { flags with space := false } ∧
      ∀ c ∈ space, (c == ' ') = true := by
  unfold signOf
  cases negative with
  | true => exact ⟨[], rfl, by simp⟩
  | false =>
    rw [if_neg Bool.false_ne_true, if_neg Bool.false_ne_true]
    split
    next => exact ⟨[], rfl, by simp⟩
    next =>
      split
      next => exact ⟨[' '], rfl, by simp⟩
      next => exact ⟨[], rfl, by simp⟩

/-- Without the space flag the sign is one that literals have. -/
theorem signText_signOf (negative : Bool) (flags : Flags) :
    SignText negative (signOf negative { flags with space := false }) := by
  unfold signOf
  cases negative with
  | true => exact .minus
  | false =>
    rw [if_neg Bool.false_ne_true, if_neg Bool.false_ne_true]
    split
    next => exact .plus
    next => exact .absent

/-- A number laid out stands between spaces, with zeros between its lead and its body.  A
space that takes the place of the sign is one of those in front. -/
theorem exists_layOut_signOf (spec : Spec) (zeroFill negative : Bool) (mark body : List Char) :
    ∃ before zeros after,
      layOut spec zeroFill (signOf negative spec.flags ++ mark) body =
        before ++ (signOf negative { spec.flags with space := false } ++
          (mark ++ (List.replicate zeros '0' ++ body))) ++ after ∧
      ∀ c ∈ before ++ after, (c == ' ') = true := by
  obtain ⟨space, sign_eq, blank⟩ := exists_signOf_eq negative spec.flags
  rw [sign_eq]
  simp only [layOut]
  generalize spec.width.getD 0 - _ = fill
  have filled : ∀ c ∈ List.replicate fill ' ', (c == ' ') = true := fun c member =>
    beq_iff_eq.2 (List.eq_of_mem_replicate member)
  split
  next => exact ⟨space, 0, List.replicate fill ' ', by simp, by grind⟩
  next =>
    split
    next => exact ⟨space, fill, [], by simp, by simpa using blank⟩
    next => exact ⟨List.replicate fill ' ' ++ space, 0, [], by simp, by grind⟩

/-- Spaces around a text without spaces are taken away. -/
theorem trim_of_no_space {before text after : List Char}
    (blank : ∀ c ∈ before ++ after, (c == ' ') = true)
    (spaceless : ∀ c ∈ text, c ≠ ' ') :
    Text.trim (· == ' ') (before ++ text ++ after) = text :=
  Text.trim_append_append blank
    (fun c first => beq_eq_false_iff_ne.2 (spaceless c (List.mem_of_mem_head? first)))
    (fun c last => beq_eq_false_iff_ne.2 (spaceless c (List.mem_of_getLast? last)))

end PolicyBuiltins.Template
