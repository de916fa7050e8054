/-
# The trimming built-ins

`trim` is `trim_left` and `trim_right` one after the other, in either order.  What the one-sided
ones leave is the longest part of the text that reaches to the other end and does not begin, or
end, with a character of the cutset.  A second call finds nothing more to take away, and
`trim_space` is `trim` for a cutset of the white space in the text.
-/

import PolicyBuiltins.Proofs.Catalogue.Standard
import PolicyBuiltins.Proofs.Text.TrimmedEnds

namespace PolicyBuiltins.Strings

open Text (IsLongest)

section
variable (settings : Settings) (text cutset : String)

theorem call_trimLeft :
    (Catalogue.standard settings).call "trim_left" [.string text, .string cutset] =
      .defined (.ofChars (Text.trimLeft cutset.toList.contains text.toList)) :=
  call_binary settings (fun cutset => Text.trimLeft cutset.contains) (by simp [builtins])
    text cutset

theorem call_trimRight :
    (Catalogue.standard settings).call "trim_right" [.string text, .string cutset] =
      .defined (.ofChars (Text.trimRight cutset.toList.contains text.toList)) :=
  call_binary settings (fun cutset => Text.trimRight cutset.contains) (by simp [builtins])
    text cutset

theorem call_trim :
    (Catalogue.standard settings).call "trim" [.string text, .string cutset] =
      .defined (.ofChars (Text.trim cutset.toList.contains text.toList)) :=
  call_binary settings (fun cutset => Text.trim cutset.contains) (by simp [builtins])
    text cutset

theorem call_trimSpace :
    (Catalogue.standard settings).call "trim_space" [.string text] =
      .defined (.ofChars (Text.trimSpace text.toList)) :=
  call_unary settings Text.trimSpace (by simp [builtins]) text

end

/-- The trimming built-ins fit together.  `trim` is the two one-sided ones in either order; these
leave the longest parts that reach the other end and stop at a character outside of the cutset;
a second call changes nothing, and with an empty cutset the first does not either; and
`trim_space` is `trim` for any cutset with the white space of the text in it and none of its other
characters. -/
theorem trimmed_ends_fit_together (settings : Settings) (text cutset : String) :
    ∃ draft, Draft.standard? = .ok draft ∧
      let call := (draft.withSettings settings).seal.call
      ∃ left right both : String,
        call "trim_left" [.string text, .string cutset] = .defined (.string left) ∧
        call "trim_right" [.string text, .string cutset] = .defined (.string right) ∧
        call "trim" [.string text, .string cutset] = .defined (.string both) ∧
        call "trim_left" [.string right, .string cutset] = .defined (.string both) ∧
        call "trim_right" [.string left, .string cutset] = .defined (.string both) ∧
        IsLongest (fun part => part <:+ text.toList ∧ ∀ c ∈ part.head?, c ∉ cutset.toList)
          left.toList ∧
        IsLongest (fun part => part <+: text.toList ∧ ∀ c ∈ part.getLast?, c ∉ cutset.toList)
          right.toList ∧
        call "trim_left" [.string left, .string cutset] = .defined (.string left) ∧
        call "trim_right" [.string right, .string cutset] = .defined (.string right) ∧
        call "trim" [.string both, .string cutset] = .defined (.string both) ∧
        (cutset = "" → left = text ∧ right = text ∧ both = text) ∧
        ∀ spaces : String,
          (∀ c ∈ text.toList, c ∈ spaces.toList ↔ Unicode.isWhiteSpace c = true) →
            ∃ spaceless : String,
              call "trim_space" [.string text] = .defined (.string spaceless) ∧
              call "trim" [.string text, .string spaces] = .defined (.string spaceless) := by
  let test := cutset.toList.contains
  have test_eq_false_iff (c : Char) : test c = false ↔ c ∉ cutset.toList := by
    rw [← Bool.not_eq_true, List.contains_iff_mem]
  refine ⟨_, Draft.standard?_eq_ok, String.ofList (Text.trimLeft test text.toList),
    String.ofList (Text.trimRight test text.toList), String.ofList (Text.trim test text.toList),
    call_trimLeft settings text cutset, call_trimRight settings text cutset,
    call_trim settings text cutset, ?_, ?_, ?_, ?_, ?_, ?_, ?_, ?_, ?_⟩
  · refine (call_trimLeft settings _ cutset).trans ?_
    rw [String.toList_ofList, Text.trimLeft_trimRight]
    rfl
  · refine (call_trimRight settings _ cutset).trans ?_
    rw [String.toList_ofList]
    rfl
  · simp only [String.toList_ofList, ← test_eq_false_iff]
    exact Text.isLongest_trimLeft test text.toList
  · simp only [String.toList_ofList, ← test_eq_false_iff]
    exact Text.isLongest_trimRight test text.toList
  · refine (call_trimLeft settings _ cutset).trans ?_
    rw [String.toList_ofList, Text.trimLeft_trimLeft]
    rfl
  · refine (call_trimRight settings _ cutset).trans ?_
    rw [String.toList_ofList, Text.trimRight_trimRight]
    rfl
  · refine (call_trim settings _ cutset).trans ?_
    rw [String.toList_ofList, Text.trim_trim]
    rfl
  · rintro rfl
    have keeps (c : Char) : test c = false := (test_eq_false_iff c).2 (by simp)
    rw [Text.trimLeft_of_head? fun c _ => keeps c, Text.trimRight_of_getLast? fun c _ => keeps c,
      Text.trim_of_head?_of_getLast? (fun c _ => keeps c) fun c _ => keeps c,
      String.ofList_toList]
    exact ⟨rfl, rfl, rfl⟩
  · intro spaces listed
    refine ⟨String.ofList (Text.trimSpace text.toList), call_trimSpace settings text, ?_⟩
    refine (call_trim settings text spaces).trans ?_
    have same : ∀ c ∈ text.toList, spaces.toList.contains c = Unicode.isWhiteSpace c := by
      intro c member
      rw [Bool.eq_iff_iff, List.contains_iff_mem]
      exact listed c member
    rw [Text.trim_congr same]
    rfl

/-- Nothing is cut away from white space at both ends by an empty cutset, and all of it by a
cutset of just the spaces that there are. -/
theorem trimmed_ends_fit_together_spaced :
    ∃ draft, Draft.standard? = .ok draft ∧
      (∀ c ∈ "\t a b\u2003".toList,
        c ∈ " \u2003\t".toList ↔ Unicode.isWhiteSpace c = true) ∧
      (draft.withSettings .strict).seal.call "trim" [.string "\t a b\u2003", .string ""] =
        .defined (.string "\t a b\u2003") ∧
      (draft.withSettings .strict).seal.call "trim_space" [.string "\t a b\u2003"] =
        (draft.withSettings .strict).seal.call "trim"
          [.string "\t a b\u2003", .string " \u2003\t"] := by
  have listed : ∀ c ∈ "\t a b\u2003".toList,
      c ∈ " \u2003\t".toList ↔ Unicode.isWhiteSpace c = true := by
    simp [Unicode.isWhiteSpace, Unicode.whiteSpaceRuns, Unicode.Runs.holds]
  obtain ⟨draft, registered, left, right, both, -, -, trimmed, -, -, -, -, -, -, -, unchanged,
    spaced⟩ := trimmed_ends_fit_together .strict "\t a b\u2003" ""
  obtain ⟨spaceless, space_call, trim_call⟩ := spaced " \u2003\t" listed
  rw [(unchanged rfl).2.2] at trimmed
  exact ⟨draft, registered, listed, trimmed, space_call.trans trim_call.symm⟩

end PolicyBuiltins.Strings
