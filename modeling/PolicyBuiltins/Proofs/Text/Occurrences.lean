/-
# First occurrences

A search cuts a text at the first occurrence of a pattern: none begins further to the left.
Where the first occurrence is does not depend on what stands behind it, so it stays the first
when the text is cut off right behind it and when more text follows.
-/

import PolicyBuiltins.Text.Searching

namespace PolicyBuiltins.Text

/-- The pattern stands between the two parts of the text, and nowhere further to the left. -/
structure IsFirstOccurrence (pattern text before behind : List Char) : Prop where
  text_eq : text = before ++ pattern ++ behind
  first : ∀ before' behind', text = before' ++ pattern ++ behind' →
    before.length ≤ before'.length

section
variable {pattern text before behind before' behind' : List Char}

/-- Occurrences at the same distance from the start have the same parts around them. -/
theorem eq_and_eq_of_length_eq (same : before ++ pattern ++ behind = before' ++ pattern ++ behind')
    (length : before.length = before'.length) : before = before' ∧ behind = behind' := by
  rw [List.append_assoc, List.append_assoc] at same
  obtain ⟨fronts, rests⟩ := List.append_inj same length
  exact ⟨fronts, List.append_cancel_left rests⟩

/-- There is one first occurrence at most. -/
theorem IsFirstOccurrence.unique (found : IsFirstOccurrence pattern text before behind)
    (found' : IsFirstOccurrence pattern text before' behind') :
    before = before' ∧ behind = behind' :=
  eq_and_eq_of_length_eq (found.text_eq.symm.trans found'.text_eq)
    (Nat.le_antisymm (found.first _ _ found'.text_eq) (found'.first _ _ found.text_eq))

/-- The first occurrence stays the first when the text behind it is cut off. -/
theorem IsFirstOccurrence.cutBehind (found : IsFirstOccurrence pattern text before behind) :
    IsFirstOccurrence pattern (before ++ pattern) before [] where
  text_eq := (List.append_nil _).symm
  first := by
    intro before' behind' same
    refine found.first before' (behind' ++ behind) ?_
    rw [found.text_eq, same, List.append_assoc (before' ++ pattern)]

/-- The first occurrence stays the first when more text follows. -/
theorem IsFirstOccurrence.append (found : IsFirstOccurrence pattern text before behind)
    (more : List Char) : IsFirstOccurrence pattern (text ++ more) before (behind ++ more) where
  text_eq := by rw [found.text_eq, List.append_assoc (before ++ pattern)]
  first := by
    intro before' behind' same
    apply Nat.le_of_not_lt
    intro further
    -- An occurrence further to the left would end inside the text.
    have inside : before' ++ pattern <+: text := by
      refine List.prefix_of_prefix_length_le ⟨behind', same.symm⟩ ⟨more, rfl⟩ ?_
      rw [found.text_eq]
      simp only [List.length_append]
      omega
    obtain ⟨rest, text_eq⟩ := inside
    exact Nat.not_lt.2 (found.first before' rest text_eq.symm) further

/-- What stands in front of a pattern at the start of the text is nothing. -/
theorem isFirstOccurrence_at_start (pattern behind : List Char) :
    IsFirstOccurrence pattern (pattern ++ behind) [] behind :=
  ⟨rfl, fun _ _ _ => Nat.zero_le _⟩

/-- A character in front of which the pattern does not occur moves the first occurrence by
one. -/
theorem IsFirstOccurrence.cons {c : Char} (found : IsFirstOccurrence pattern text before behind)
    (elsewhere : ¬ pattern <+: c :: text) :
    IsFirstOccurrence pattern (c :: text) (c :: before) behind where
  text_eq := by rw [found.text_eq]; rfl
  first := by
    intro before' behind' same
    cases before' with
    | nil => exact absurd ⟨behind', same.symm⟩ elsewhere
    | cons c' before' =>
      have tails := (List.cons.inj same).2
      exact Nat.succ_le_succ (found.first before' behind' tails)

end

/-! ## Searching -/

theorem isFirstOccurrence_of_cut? {pattern text before behind : List Char}
    (found : cut? pattern text = some (before, behind)) :
    IsFirstOccurrence pattern text before behind := by
  induction text generalizing before with
  | nil =>
    unfold cut? at found
    split at found
    next empty =>
      rw [List.isEmpty_iff.1 empty]
      cases found
      exact isFirstOccurrence_at_start [] []
    next => cases found
  | cons c rest ih =>
    unfold cut? at found
    split at found
    next occurs =>
      obtain ⟨tail, text_eq⟩ := List.isPrefixOf_iff_prefix.1 occurs
      rw [← text_eq, List.drop_left, Option.some.injEq, Prod.mk.injEq] at found
      rw [← text_eq, ← found.1, ← found.2]
      exact isFirstOccurrence_at_start pattern tail
    next fails =>
      obtain ⟨⟨before', behind'⟩, found', moved⟩ := Option.map_eq_some_iff.1 found
      cases moved
      exact (ih found').cons fun occurs => fails (List.isPrefixOf_iff_prefix.2 occurs)

/-- A search ends at the first occurrence. -/
theorem cut?_eq_some_iff {pattern text before behind : List Char} :
    cut? pattern text = some (before, behind) ↔
      IsFirstOccurrence pattern text before behind := by
  refine ⟨isFirstOccurrence_of_cut?, fun first => ?_⟩
  have met : contains pattern text = true :=
    contains_eq_true_iff.2 ⟨before, behind, first.text_eq.symm⟩
  obtain ⟨⟨before', behind'⟩, found⟩ := Option.isSome_iff_exists.1 met
  obtain ⟨rfl, rfl⟩ := first.unique (isFirstOccurrence_of_cut? found)
  exact found

/-- A search fails exactly if the pattern stands nowhere in the text. -/
theorem cut?_eq_none_iff_absent {pattern text : List Char} :
    cut? pattern text = none ↔ ¬ pattern <:+: text := by
  rw [← contains_eq_true_iff, contains, Option.isSome_iff_ne_none, Classical.not_not]

end PolicyBuiltins.Text
