/-
# Casing and what it leaves

The lower case of a text is read off rules: a capital sigma becomes the final form where a cased
letter stands before it and none after it, and the other form elsewhere; every other character is
replaced by its mapping.

What casing gives is left alone by casing.  Each character of it is its own image, and no capital
sigma is among the lower-case ones, so the second pass asks for no context, whatever the first one
has made of the letters around a sigma.
-/

import PolicyBuiltins.Proofs.Unicode.CaseMapping
import PolicyBuiltins.Text.Casing

namespace PolicyBuiltins.Text

open Unicode (isCased isCaseIgnorable lowerCase upperCase)

/-! ## Rules for lower case -/

/-- A cased letter comes next in a text, behind characters that casing looks through. -/
def FacesLetter (text : List Char) : Prop :=
  ∃ passed letter rest, text = passed ++ letter :: rest ∧
    (∀ c ∈ passed, isCaseIgnorable c = true) ∧ isCaseIgnorable letter = false ∧
    isCased letter = true

/-- What the lower case of a text is that follows the characters `before`, the nearest first. -/
inductive Lowers : (before text result : List Char) → Prop
  | done (before : List Char) : Lowers before [] []
  | finalSigma {before after result : List Char} (behind : FacesLetter before)
      (last : ¬ FacesLetter after) (rest : Lowers ('Σ' :: before) after result) :
      Lowers before ('Σ' :: after) ('ς' :: result)
  | sigma {before after result : List Char} (inside : FacesLetter before → FacesLetter after)
      (rest : Lowers ('Σ' :: before) after result) :
      Lowers before ('Σ' :: after) ('σ' :: result)
  | mapped {c : Char} {before after result : List Char} (other : c ≠ 'Σ')
      (rest : Lowers (c :: before) after result) :
      Lowers before (c :: after) (lowerCase c ++ result)

theorem meetsCasedLetter_eq_true_iff {text : List Char} :
    meetsCasedLetter text = true ↔ FacesLetter text := by
  unfold meetsCasedLetter
  constructor
  · intro meets
    have stopped := List.head?_dropWhile_not isCaseIgnorable text
    cases dropped : text.dropWhile isCaseIgnorable with
    | nil => simp [dropped] at meets
    | cons letter rest =>
      rw [dropped] at meets stopped
      refine ⟨text.takeWhile isCaseIgnorable, letter, rest, ?_, ?_, stopped, meets⟩
      · rw [← dropped, List.takeWhile_append_dropWhile]
      · exact List.all_eq_true.1 List.all_takeWhile
  · rintro ⟨passed, letter, rest, rfl, passes, stops, cased⟩
    rw [List.dropWhile_append_of_pos passes, List.dropWhile_cons_of_neg (by simp [stops])]
    exact cased

theorem lowerSigma_of_final {before after : List Char} (behind : FacesLetter before)
    (last : ¬ FacesLetter after) : lowerSigma before after = 'ς' := by
  rw [← meetsCasedLetter_eq_true_iff] at behind last
  simp [lowerSigma, behind, last]

theorem lowerSigma_of_inside {before after : List Char}
    (inside : FacesLetter before → FacesLetter after) : lowerSigma before after = 'σ' := by
  simp only [← meetsCasedLetter_eq_true_iff] at inside
  cases behind : meetsCasedLetter before with
  | false => simp [lowerSigma, behind]
  | true => simp [lowerSigma, inside behind]

/-- The lower case of a text keeps the rules. -/
theorem lowers_lowerAfter (before text : List Char) :
    Lowers before text (lowerAfter before text) := by
  induction text generalizing before with
  | nil => exact .done before
  | cons c after ih =>
    rw [lowerAfter]
    by_cases sigma : c = 'Σ'
    · subst sigma
      rw [if_pos rfl]
      by_cases final : FacesLetter before ∧ ¬ FacesLetter after
      · rw [lowerSigma_of_final final.1 final.2]
        exact .finalSigma final.1 final.2 (ih _)
      · have inside : FacesLetter before → FacesLetter after := fun behind =>
          Classical.not_not.1 fun last => final ⟨behind, last⟩
        rw [lowerSigma_of_inside inside]
        exact .sigma inside (ih _)
    · rw [if_neg sigma]
      exact .mapped sigma (ih _)

/-- The rules leave no choice. -/
theorem Lowers.eq_lowerAfter {before text result : List Char}
    (lowers : Lowers before text result) : result = lowerAfter before text := by
  induction lowers with
  | done before => rfl
  | finalSigma behind last rest ih =>
    rw [lowerAfter, if_pos rfl, lowerSigma_of_final behind last, ih]
    rfl
  | sigma inside rest ih =>
    rw [lowerAfter, if_pos rfl, lowerSigma_of_inside inside, ih]
    rfl
  | mapped other rest ih => rw [lowerAfter, if_neg other, ih]

theorem lowers_iff {before text result : List Char} :
    Lowers before text result ↔ result = lowerAfter before text :=
  ⟨Lowers.eq_lowerAfter, fun same => same ▸ lowers_lowerAfter before text⟩

/-! ## Casing again -/

theorem flatMap_of_forall_singleton {text : List Char} {map : Char → List Char}
    (kept : ∀ c ∈ text, map c = [c]) : text.flatMap map = text := by
  induction text with
  | nil => rfl
  | cons c text ih =>
    rw [List.forall_mem_cons] at kept
    rw [List.flatMap_cons, kept.1, ih kept.2]
    rfl

/-- Upper case is left alone. -/
theorem upper_upper (text : List Char) : upper (upper text) = upper text := by
  apply flatMap_of_forall_singleton
  intro c member
  obtain ⟨source, -, image⟩ := List.mem_flatMap.1 member
  exact Unicode.mapCase_of_mem Unicode.isSettled_upper image

/-- A character that lowering leaves alone wherever it stands. -/
def IsLower (c : Char) : Prop :=
  c ≠ 'Σ' ∧ lowerCase c = [c]

theorem isLower_lowerSigma (before after : List Char) : IsLower (lowerSigma before after) := by
  unfold lowerSigma
  split
  next => exact ⟨by decide, by decide +kernel⟩
  next => exact ⟨by decide, by decide +kernel⟩

theorem isLower_of_mem_lowerCase {c d : Char} (image : d ∈ lowerCase c) : IsLower d := by
  have kept : lowerCase d = [d] := Unicode.mapCase_of_mem Unicode.isSettled_lower image
  have moved : lowerCase 'Σ' ≠ ['Σ'] := by decide +kernel
  exact ⟨fun sigma => moved (sigma ▸ kept), kept⟩

theorem isLower_of_mem_lowerAfter {before text : List Char} :
    ∀ c ∈ lowerAfter before text, IsLower c := by
  induction text generalizing before with
  | nil => exact List.forall_mem_nil _
  | cons c after ih =>
    rw [lowerAfter, List.forall_mem_append]
    refine ⟨?_, ih⟩
    split
    next => exact List.forall_mem_singleton.2 (isLower_lowerSigma before after)
    next => exact fun d image => isLower_of_mem_lowerCase image

/-- Characters that lowering leaves alone need no context. -/
theorem lowerAfter_of_isLower {text : List Char} (kept : ∀ c ∈ text, IsLower c)
    (before : List Char) : lowerAfter before text = text := by
  induction text generalizing before with
  | nil => rfl
  | cons c after ih =>
    rw [List.forall_mem_cons] at kept
    rw [lowerAfter, if_neg kept.1.1, kept.1.2, ih kept.2]
    rfl

/-- Lower case is left alone. -/
theorem lower_lower (text : List Char) : lower (lower text) = lower text :=
  lowerAfter_of_isLower isLower_of_mem_lowerAfter []

/-- A sigma at the end of a word, behind an apostrophe that casing looks through, and one that
stands alone. -/
example : lower "ΑΣ'Σ Σ".toList = "ασ'ς σ".toList := by decide +kernel

end PolicyBuiltins.Text
