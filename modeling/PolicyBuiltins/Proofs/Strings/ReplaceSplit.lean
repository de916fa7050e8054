/-
# Replacing by splitting and joining

To replace a text that is not empty, split at it and join the fields with the new one.  The
first occurrence gives way to the new text, and the rest comes from the text behind the
occurrence: what has been put in is never searched.  An empty text is found around every
character.  In all cases, replacing something by itself changes nothing.
-/

import PolicyBuiltins.Proofs.Strings.SplitConcat
import PolicyBuiltins.Proofs.Text.Replacing

namespace PolicyBuiltins.Strings

open Text (IsFirstOccurrence)

/-- A call of `replace` with three strings gives the text with the replacements. -/
theorem call_replace (settings : Settings) (text old new : String) :
    (Catalogue.standard settings).call "replace" [.string text, .string old, .string new] =
      .defined (.ofChars (Text.replace old.toList new.toList text.toList)) := by
  have inside : ⟨"replace", 3, replace⟩ ∈ builtins := by simp [builtins]
  exact Catalogue.call_standard inside rfl

/-- `replace` is `split` at the old text and `concat` with the new one.  It goes on behind each
occurrence until there is none, so what it puts in is never searched; an empty old text is found
around every character; and nothing changes if both texts are the same. -/
theorem replace_joins_split_fields (settings : Settings) (text old new : String) :
    ∃ draft, Draft.standard? = .ok draft ∧
      let call := (draft.withSettings settings).seal.call
      (old ≠ "" → ∃ (fields : List String) (result : String),
        call "split" [.string text, .string old] =
          .defined (.array (fields.map Value.string)) ∧
        call "concat" [.string new, .array (fields.map Value.string)] =
          .defined (.string result) ∧
        call "replace" [.string text, .string old, .string new] = .defined (.string result)) ∧
      (old ≠ "" → ∀ before behind : String,
        IsFirstOccurrence old.toList text.toList before.toList behind.toList →
          ∃ rest : String,
            call "replace" [.string behind, .string old, .string new] =
              .defined (.string rest) ∧
            call "replace" [.string text, .string old, .string new] =
              .defined (.string (before ++ new ++ rest))) ∧
      (old ≠ "" → ¬ old.toList <:+: text.toList →
        call "replace" [.string text, .string old, .string new] = .defined (.string text)) ∧
      (old = "" → call "replace" [.string text, .string old, .string new] =
        .defined (.ofChars (new.toList ++ text.toList.flatMap fun c => c :: new.toList))) ∧
      call "replace" [.string text, .string old, .string old] = .defined (.string text) := by
  refine ⟨_, Draft.standard?_eq_ok, ?_⟩
  intro call
  have replaced (text new : String) :
      call "replace" [.string text, .string old, .string new] =
        .defined (.ofChars (Text.replace old.toList new.toList text.toList)) :=
    call_replace settings text old new
  have some_chars (nonempty : old ≠ "") : old.toList ≠ [] := by simpa using nonempty
  refine ⟨fun nonempty => ?_, fun nonempty before behind first => ?_,
    fun nonempty absent => ?_, fun empty => ?_, ?_⟩
  · let fields := (Text.fields old.toList text.toList).map String.ofList
    have chars_eq : fields.map String.toList = Text.fields old.toList text.toList := by
      simp [fields, Function.comp_def]
    refine ⟨fields, String.ofList (Text.replace old.toList new.toList text.toList), ?_, ?_,
      replaced text new⟩
    · refine (call_split settings text old).trans ?_
      rw [List.map_map]
      rfl
    · refine (call_concat settings new fields).trans ?_
      rw [chars_eq, ← Text.replace_eq_intercalate_fields (some_chars nonempty)]
      rfl
  · refine ⟨String.ofList (Text.replace old.toList new.toList behind.toList),
      replaced behind new, ?_⟩
    rw [replaced, Text.replace_of_isFirstOccurrence (some_chars nonempty) new.toList first,
      Value.ofChars, String.ofList_append, String.ofList_append, String.ofList_toList,
      String.ofList_toList]
  · rw [replaced, Text.replace_of_absent (some_chars nonempty) new.toList absent, Value.ofChars,
      String.ofList_toList]
  · rw [replaced, empty, String.toList_empty, Text.replace_nil_left]
  · rw [replaced, Text.replace_self, Value.ofChars, String.ofList_toList]

/-- An old text that overlaps itself, and occurs in what is put in for it. -/
theorem replace_joins_split_fields_overlapping :
    ∃ draft, Draft.standard? = .ok draft ∧ "aa" ≠ "" ∧
      IsFirstOccurrence "aa".toList "baaa".toList "b".toList "a".toList ∧
      ∃ fields : List String,
        (draft.withSettings .strict).seal.call "split" [.string "baaa", .string "aa"] =
          .defined (.array (fields.map Value.string)) ∧
        (draft.withSettings .strict).seal.call "concat"
            [.string "aaa", .array (fields.map Value.string)] = .defined (.string "baaaa") ∧
        (draft.withSettings .strict).seal.call "replace"
            [.string "baaa", .string "aa", .string "aaa"] = .defined (.string "baaaa") := by
  have nonempty : "aa" ≠ "" := by decide
  have first : IsFirstOccurrence "aa".toList "baaa".toList "b".toList "a".toList :=
    Text.cut?_eq_some_iff.1 (by decide)
  obtain ⟨draft, registered, joins, goes_on, -⟩ :=
    replace_joins_split_fields .strict "baaa" "aa" "aaa"
  obtain ⟨fields, result, split_call, concat_call, replace_call⟩ := joins nonempty
  obtain ⟨rest, rest_call, whole_call⟩ := goes_on nonempty "b" "a" first
  have rest_eq : rest = "a" := by
    obtain ⟨draft', registered', -, -, unchanged, -⟩ :=
      replace_joins_split_fields .strict "a" "aa" "aaa"
    obtain rfl := Except.ok.inj (registered.symm.trans registered')
    simpa using rest_call.symm.trans (unchanged nonempty (by decide))
  have result_eq : result = "baaaa" := by
    have value_eq := replace_call.symm.trans whole_call
    rw [rest_eq] at value_eq
    simpa using value_eq
  rw [result_eq] at concat_call replace_call
  exact ⟨draft, registered, nonempty, first, fields, split_call, concat_call, replace_call⟩

end PolicyBuiltins.Strings
