/-
# Positions in a text

A position counts the characters in front of it.  The first occurrence of a pattern begins at
the least position from which on the text begins with the pattern.
-/

import Mathlib.Order.Bounds.Basic
import PolicyBuiltins.Proofs.Text.Occurrences

namespace PolicyBuiltins.Text

variable {pattern text before behind : List Char}

theorem IsFirstOccurrence.isLeast (first : IsFirstOccurrence pattern text before behind) :
    IsLeast {position : ℕ | pattern <+: text.drop position} before.length := by
  constructor
  · show pattern <+: text.drop before.length
    rw [first.text_eq, List.append_assoc, List.drop_left]
    exact List.prefix_append _ _
  · rintro position ⟨rest, occurs⟩
    have further := first.first (text.take position) rest (by
      rw [List.append_assoc, occurs, List.take_append_drop])
    exact further.trans (List.length_take_le _ _)

/-- A text begins with a pattern exactly if the first occurrence is at its start. -/
theorem IsFirstOccurrence.length_eq_zero_iff
    (first : IsFirstOccurrence pattern text before behind) :
    before.length = 0 ↔ pattern <+: text := by
  constructor
  · intro at_start
    have occurs : pattern <+: text.drop before.length := first.isLeast.1
    rwa [at_start, List.drop_zero] at occurs
  · intro begins
    exact Nat.le_zero.1 (first.isLeast.2 (show pattern <+: text.drop 0 from begins))

theorem not_isPrefix_drop (absent : ¬ pattern <:+: text) (position : ℕ) :
    ¬ pattern <+: text.drop position := fun occurs =>
  absent (occurs.isInfix.trans (List.drop_suffix position text).isInfix)

end PolicyBuiltins.Text
