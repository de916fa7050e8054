/-
# Splitting and joining again

What `split` gives is an array of strings, so `concat` takes it.  Joined with the delimiter it
was split at, it is the text again, whatever the delimiter is.
-/

import PolicyBuiltins.Proofs.Catalogue.Standard
import PolicyBuiltins.Proofs.Operand.Enumeration
import PolicyBuiltins.Proofs.Text.Splitting

namespace PolicyBuiltins.Strings

open Text (IsLeftmostSplit)

/-- A call of `split` with two strings gives the fields. -/
theorem call_split (settings : Settings) (text delimiter : String) :
    (Catalogue.standard settings).call "split" [.string text, .string delimiter] =
      .defined (.array ((Text.fields delimiter.toList text.toList).map Value.ofChars)) := by
  have inside : ⟨"split", 2, split⟩ ∈ builtins := by simp [builtins]
  exact Catalogue.call_standard inside rfl

/-- A call of `concat` joins the strings that its second operand gives. -/
theorem call_concat_of_strings (settings : Settings) (separator : String) {collection : Value}
    {parts : List String} (given : Operand.strings collection 2 = .ok parts) :
    (Catalogue.standard settings).call "concat" [.string separator, collection] =
      .defined (.ofChars (separator.toList.intercalate (parts.map String.toList))) := by
  have inside : ⟨"concat", 2, concat⟩ ∈ builtins := by simp [builtins]
  refine (Catalogue.call_standard inside rfl).trans ?_
  simp only [concat, Invocation.argument, List.getD_cons_succ, List.getD_cons_zero, given]
  rfl

/-- A call of `concat` with a string and an array of strings joins these. -/
theorem call_concat (settings : Settings) (separator : String) (parts : List String) :
    (Catalogue.standard settings).call "concat"
        [.string separator, .array (parts.map Value.string)] =
      .defined (.ofChars (separator.toList.intercalate (parts.map String.toList))) :=
  call_concat_of_strings settings separator ((Operand.stringItems_eq_ok_iff 0 _ parts).2 rfl)

/-- The fields that `split` gives are the one leftmost split of the text, or its characters if
the delimiter is empty, and `concat` makes the text of them. -/
theorem split_is_leftmost_and_rejoins (settings : Settings) (text delimiter : String) :
    ∃ draft, Draft.standard? = .ok draft ∧ ∃ fields : List String,
      (draft.withSettings settings).seal.call "split" [.string text, .string delimiter] =
        .defined (.array (fields.map Value.string)) ∧
      (draft.withSettings settings).seal.call "concat"
          [.string delimiter, .array (fields.map Value.string)] = .defined (.string text) ∧
      (delimiter ≠ "" → ∀ parts : List String,
        IsLeftmostSplit delimiter.toList text.toList (parts.map String.toList) ↔
          parts = fields) ∧
      (delimiter = "" → fields = text.toList.map String.singleton) := by
  let fields := (Text.fields delimiter.toList text.toList).map String.ofList
  have chars_eq : fields.map String.toList = Text.fields delimiter.toList text.toList := by
    simp [fields, Function.comp_def]
  refine ⟨_, Draft.standard?_eq_ok, fields, ?_, ?_, ?_, ?_⟩
  · show (Catalogue.standard settings).call _ _ = _
    rw [call_split, List.map_map]
    rfl
  · show (Catalogue.standard settings).call _ _ = _
    rw [call_concat, chars_eq, Text.intercalate_fields, Value.ofChars, String.ofList_toList]
  · intro nonempty parts
    have some_chars : delimiter.toList ≠ [] := by simpa using nonempty
    rw [Text.fields, dif_pos some_chars] at chars_eq
    rw [Text.isLeftmostSplit_iff some_chars, ← chars_eq]
    exact List.map_inj_right fun _ _ => String.toList_inj.1
  · rintro rfl
    simp [fields, Text.fields, Function.comp_def]

/-- A delimiter that overlaps itself in the text. -/
theorem split_is_leftmost_and_rejoins_overlapping :
    ∃ draft, Draft.standard? = .ok draft ∧ "aa" ≠ "" ∧
      (draft.withSettings .strict).seal.call "split" [.string "baaab", .string "aa"] =
        .defined (.array [.string "b", .string "ab"]) ∧
      (draft.withSettings .strict).seal.call "concat"
          [.string "aa", .array [.string "b", .string "ab"]] = .defined (.string "baaab") := by
  have nonempty : "aa" ≠ "" := by decide
  have first : Text.IsFirstOccurrence ['a', 'a'] "baa".toList ['b'] [] :=
    Text.cut?_eq_some_iff.1 (by decide)
  have leftmost : IsLeftmostSplit "aa".toList "baaab".toList (["b", "ab"].map String.toList) :=
    ⟨by decide, by decide, by decide, by simpa using first⟩
  obtain ⟨draft, registered, fields, split_call, concat_call, unique, -⟩ :=
    split_is_leftmost_and_rejoins .strict "baaab" "aa"
  rw [← (unique nonempty ["b", "ab"]).1 leftmost] at split_call concat_call
  exact ⟨draft, registered, nonempty, split_call, concat_call⟩

end PolicyBuiltins.Strings
