/-
# Replacing and splitting

A replacement goes on behind the occurrence that it has replaced, in the text as it was, so
what it has put in is not searched.  It therefore meets the occurrences at which the text is
split, and is what joins the fields again with the new text in place of the old one.  An
occurrence replaced by itself changes nothing.
-/

import PolicyBuiltins.Proofs.Text.Splitting

namespace PolicyBuiltins.Text

section
variable {old : List Char} (nonempty : old ≠ []) (new : List Char)

theorem replaceOccurrences_of_missed {text : List Char} (missed : cut? old text = none) :
    replaceOccurrences old nonempty new text = text := by
  rw [replaceOccurrences]
  split
  next => rfl
  next found => cases missed.symm.trans found

theorem replaceOccurrences_of_found {text before behind : List Char}
    (found : cut? old text = some (before, behind)) :
    replaceOccurrences old nonempty new text =
      before ++ new ++ replaceOccurrences old nonempty new behind := by
  rw [replaceOccurrences]
  split
  next missed => cases missed.symm.trans found
  next found' =>
    obtain ⟨rfl, rfl⟩ := Prod.mk.inj (Option.some.inj (found'.symm.trans found))
    rfl

/-- The fields of a text joined with the new text between them are its replacement. -/
theorem intercalate_delimitedFields (text : List Char) :
    new.intercalate (delimitedFields old nonempty text) =
      replaceOccurrences old nonempty new text := by
  fun_induction delimitedFields old nonempty text with
  | case1 text missed =>
    rw [replaceOccurrences_of_missed nonempty new missed, List.intercalate_singleton]
  | case2 text field behind found shorter ih =>
    rw [replaceOccurrences_of_found nonempty new found,
      List.intercalate_cons_of_ne_nil (delimitedFields_ne_nil nonempty behind), ih]

end

variable {old text before behind : List Char}

theorem replace_eq_intercalate_fields (nonempty : old ≠ []) (new text : List Char) :
    replace old new text = new.intercalate (fields old text) := by
  rw [replace, dif_pos nonempty, fields, dif_pos nonempty, intercalate_delimitedFields]

/-- The first occurrence is replaced, and then the text behind it is. -/
theorem replace_of_isFirstOccurrence (nonempty : old ≠ []) (new : List Char)
    (first : IsFirstOccurrence old text before behind) :
    replace old new text = before ++ new ++ replace old new behind := by
  rw [replace, dif_pos nonempty, replace, dif_pos nonempty,
    replaceOccurrences_of_found nonempty new (cut?_eq_some_iff.2 first)]

theorem replace_of_absent (nonempty : old ≠ []) (new : List Char)
    (absent : ¬ old <:+: text) : replace old new text = text := by
  rw [replace, dif_pos nonempty,
    replaceOccurrences_of_missed nonempty new (cut?_eq_none_iff_absent.2 absent)]

/-- A character in front of which there is no occurrence stays where it is. -/
theorem replace_cons_of_not_prefix (nonempty : old ≠ []) (new : List Char) {c : Char}
    (elsewhere : ¬ old <+: c :: text) :
    replace old new (c :: text) = c :: replace old new text := by
  cases found : cut? old text with
  | none =>
    rw [cut?_eq_none_iff_absent] at found
    have absent : ¬ old <:+: c :: text := fun occurs =>
      (List.infix_cons_iff.1 occurs).elim elsewhere found
    rw [replace_of_absent nonempty new absent, replace_of_absent nonempty new found]
  | some parts =>
    obtain ⟨before, behind⟩ := parts
    have first := cut?_eq_some_iff.1 found
    rw [replace_of_isFirstOccurrence nonempty new (first.cons elsewhere),
      replace_of_isFirstOccurrence nonempty new first, List.cons_append, List.cons_append]

/-- A single character is replaced wherever it stands. -/
theorem replace_singleton (c : Char) (new text : List Char) :
    replace [c] new text = text.flatMap fun d => if d = c then new else [d] := by
  have nonempty : [c] ≠ [] := List.cons_ne_nil c []
  induction text with
  | nil => exact replace_of_absent nonempty new (by simp)
  | cons d text ih =>
    rw [List.flatMap_cons, ← ih]
    by_cases same : d = c
    · rw [if_pos same, same]
      exact replace_of_isFirstOccurrence nonempty new (isFirstOccurrence_at_start [c] text)
    · rw [if_neg same, replace_cons_of_not_prefix nonempty new (by simpa using Ne.symm same)]
      rfl

theorem replace_nil_left (new text : List Char) :
    replace [] new text = new ++ text.flatMap fun c => c :: new :=
  dif_neg (not_not_intro rfl)

theorem replace_self (pattern text : List Char) : replace pattern pattern text = text := by
  by_cases nonempty : pattern = []
  · rw [nonempty, replace_nil_left]
    exact List.flatMap_singleton' text
  · rw [replace_eq_intercalate_fields nonempty, intercalate_fields]

end PolicyBuiltins.Text
