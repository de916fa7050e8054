/-
# Splitting a text

The fields of a text are what stands between the occurrences of a delimiter when these are
taken from the left and do not overlap.  This determines them: each field but the last ends
where the first occurrence of the delimiter begins, and the last one has none in it.  Joined
with the delimiter between them the fields are the text.  With an empty delimiter they are the
single characters, which also join to the text.
-/

import Mathlib.Data.List.Basic
import PolicyBuiltins.Proofs.Text.Occurrences

namespace PolicyBuiltins.Text

/-- A text split at the leftmost occurrences of a delimiter that do not overlap. -/
structure IsLeftmostSplit (delimiter text : List Char) (fields : List (List Char)) : Prop where
  ne_nil : fields ≠ []
  joined : delimiter.intercalate fields = text
  absent : ∀ field ∈ fields, ¬ delimiter <:+: field
  leftmost : ∀ field ∈ fields.dropLast,
    IsFirstOccurrence delimiter (field ++ delimiter) field []

section
variable {delimiter text field behind : List Char} {fields : List (List Char)}

/-- A text without the delimiter is its only field. -/
theorem isLeftmostSplit_singleton_iff :
    IsLeftmostSplit delimiter text [field] ↔ field = text ∧ ¬ delimiter <:+: text := by
  constructor
  · intro split
    have same : field = text := by rw [← split.joined, List.intercalate_singleton]
    exact ⟨same, same ▸ split.absent field List.mem_cons_self⟩
  · rintro ⟨rfl, missing⟩
    refine ⟨List.cons_ne_nil _ _, List.intercalate_singleton, ?_, by simp⟩
    intro other member
    rw [List.mem_singleton.1 member]
    exact missing

/-- A field that ends at the first occurrence has no delimiter in it. -/
theorem IsFirstOccurrence.absent (nonempty : delimiter ≠ [])
    (first : IsFirstOccurrence delimiter text field behind) : ¬ delimiter <:+: field := by
  rintro ⟨before, rest, field_eq⟩
  have further := first.first before (rest ++ delimiter ++ behind) (by
    rw [first.text_eq, ← field_eq]
    simp only [List.append_assoc])
  have longer := List.length_pos_of_ne_nil nonempty
  rw [← field_eq] at further
  simp only [List.length_append] at further
  omega

/-- In front of other fields stands the part in front of the first occurrence, and the other
fields split what is behind it. -/
theorem isLeftmostSplit_cons_iff (nonempty : delimiter ≠ []) (others : fields ≠ []) :
    IsLeftmostSplit delimiter text (field :: fields) ↔
      ∃ behind, IsFirstOccurrence delimiter text field behind ∧
        IsLeftmostSplit delimiter behind fields := by
  constructor
  · intro split
    have joined := split.joined
    rw [List.intercalate_cons_of_ne_nil others] at joined
    have leftmost := split.leftmost
    rw [List.dropLast_cons_of_ne_nil others] at leftmost
    refine ⟨delimiter.intercalate fields, ?_, others, rfl, ?_, ?_⟩
    · rw [← joined]
      exact (leftmost field List.mem_cons_self).append _
    · exact fun other member => split.absent other (List.mem_cons_of_mem _ member)
    · exact fun other member => leftmost other (List.mem_cons_of_mem _ member)
  · rintro ⟨behind, first, split⟩
    refine ⟨List.cons_ne_nil _ _, ?_, ?_, ?_⟩
    · rw [List.intercalate_cons_of_ne_nil others, split.joined, first.text_eq]
    · intro other member
      rcases List.mem_cons.1 member with rfl | inside
      · exact first.absent nonempty
      · exact split.absent other inside
    · intro other member
      rw [List.dropLast_cons_of_ne_nil others] at member
      rcases List.mem_cons.1 member with rfl | inside
      · exact first.cutBehind
      · exact split.leftmost other inside

end

/-! ## Fields -/

section
variable {delimiter : List Char} (nonempty : delimiter ≠ [])

theorem delimitedFields_of_missed {text : List Char} (missed : cut? delimiter text = none) :
    delimitedFields delimiter nonempty text = [text] := by
  rw [delimitedFields]
  split
  next => rfl
  next found => cases missed.symm.trans found

theorem delimitedFields_of_found {text field behind : List Char}
    (found : cut? delimiter text = some (field, behind)) :
    delimitedFields delimiter nonempty text =
      field :: delimitedFields delimiter nonempty behind := by
  rw [delimitedFields]
  split
  next missed => cases missed.symm.trans found
  next found' =>
    obtain ⟨rfl, rfl⟩ := Prod.mk.inj (Option.some.inj (found'.symm.trans found))
    rfl

theorem delimitedFields_ne_nil (text : List Char) :
    delimitedFields delimiter nonempty text ≠ [] := by
  unfold delimitedFields
  split <;> exact List.cons_ne_nil _ _

theorem isLeftmostSplit_delimitedFields (text : List Char) :
    IsLeftmostSplit delimiter text (delimitedFields delimiter nonempty text) := by
  fun_induction delimitedFields delimiter nonempty text with
  | case1 text missed =>
    exact isLeftmostSplit_singleton_iff.2 ⟨rfl, cut?_eq_none_iff_absent.1 missed⟩
  | case2 text field behind found shorter ih =>
    exact (isLeftmostSplit_cons_iff nonempty (delimitedFields_ne_nil nonempty behind)).2
      ⟨behind, cut?_eq_some_iff.1 found, ih⟩

/-- The leftmost split is the list of fields, and no other list is one. -/
theorem isLeftmostSplit_iff {text : List Char} {fields : List (List Char)} :
    IsLeftmostSplit delimiter text fields ↔
      fields = delimitedFields delimiter nonempty text := by
  refine ⟨fun split => ?_, fun same => same ▸ isLeftmostSplit_delimitedFields nonempty text⟩
  induction fields generalizing text with
  | nil => exact absurd rfl split.ne_nil
  | cons field fields ih =>
    by_cases last : fields = []
    · rw [last] at split ⊢
      obtain ⟨rfl, missing⟩ := isLeftmostSplit_singleton_iff.1 split
      rw [delimitedFields_of_missed nonempty (cut?_eq_none_iff_absent.2 missing)]
    · obtain ⟨behind, first, rest⟩ := (isLeftmostSplit_cons_iff nonempty last).1 split
      rw [delimitedFields_of_found nonempty (cut?_eq_some_iff.2 first), ih rest]

end

/-- With an empty delimiter, joining puts the items one behind the other. -/
theorem intercalate_nil_left (items : List (List Char)) :
    List.intercalate [] items = items.flatten := by
  induction items with
  | nil => rfl
  | cons item items ih =>
    by_cases last : items = []
    · rw [last, List.intercalate_singleton, List.flatten_singleton]
    · rw [List.intercalate_cons_of_ne_nil last, ih, List.append_nil, List.flatten_cons]

/-- Joined with the delimiter between them, the fields are the text. -/
theorem intercalate_fields (delimiter text : List Char) :
    delimiter.intercalate (fields delimiter text) = text := by
  unfold fields
  split
  next nonempty => exact (isLeftmostSplit_delimitedFields nonempty text).joined
  next empty =>
    rw [not_not] at empty
    rw [empty, intercalate_nil_left]
    exact List.flatMap_singleton' text

end PolicyBuiltins.Text
