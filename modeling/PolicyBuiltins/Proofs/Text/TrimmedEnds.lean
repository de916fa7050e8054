/-
# What trimming leaves at the ends

Trimming on the left leaves the longest part at the end of the text that does not begin with
a character to be taken away, and trimming on the right the longest one at the start that does
not end with such a character.  The two do not get into each other's way: both ends can be
trimmed in either order, also where nothing is left between them.  Only the characters of the
text are ever tested.
-/

import Mathlib.Data.List.DropRight
import PolicyBuiltins.Proofs.Text.Trimming

namespace PolicyBuiltins.Text

/-- The longest of the texts that are admitted. -/
structure IsLongest (admits : List Char → Prop) (text : List Char) : Prop where
  admitted : admits text
  longest : ∀ other, admits other → other.length ≤ text.length

variable {test : Char → Bool} {text : List Char}

/-! ## Where trimming stops -/

theorem head?_trimLeft (test : Char → Bool) (text : List Char) :
    ∀ c ∈ (trimLeft test text).head?, test c = false := by
  intro c first
  have stopped := List.head?_dropWhile_not test text
  rw [← trimLeft, first] at stopped
  exact stopped

theorem getLast?_trimRight (test : Char → Bool) (text : List Char) :
    ∀ c ∈ (trimRight test text).getLast?, test c = false := by
  rw [trimRight, List.getLast?_reverse]
  exact head?_trimLeft test text.reverse

/-- Both ends can be trimmed in either order. -/
theorem trimLeft_trimRight (test : Char → Bool) (text : List Char) :
    trimLeft test (trimRight test text) = trim test text := by
  obtain ⟨after, text_eq, after_passes⟩ := exists_append_trimRight test text
  obtain ⟨before, right_eq, before_passes⟩ := exists_append_trimLeft test (trimRight test text)
  have starts := head?_trimLeft test (trimRight test text)
  have right_ends := getLast?_trimRight test text
  generalize trimLeft test (trimRight test text) = body at right_eq starts ⊢
  have ends : ∀ c ∈ body.getLast?, test c = false := by
    intro c last
    apply right_ends
    rw [right_eq, List.getLast?_append, last]
    rfl
  have passes : ∀ c ∈ before ++ after, test c = true :=
    List.forall_mem_append.2 ⟨before_passes, after_passes⟩
  rw [text_eq, right_eq, trim_append_append passes starts ends]

theorem head?_trim (test : Char → Bool) (text : List Char) :
    ∀ c ∈ (trim test text).head?, test c = false := by
  rw [← trimLeft_trimRight]
  exact head?_trimLeft test _

theorem getLast?_trim (test : Char → Bool) (text : List Char) :
    ∀ c ∈ (trim test text).getLast?, test c = false :=
  getLast?_trimRight test _

/-! ## Nothing to trim -/

theorem trimLeft_of_head? (starts : ∀ c ∈ text.head?, test c = false) :
    trimLeft test text = text :=
  trimLeft_append (List.forall_mem_nil _) starts

theorem trimRight_of_getLast? (ends : ∀ c ∈ text.getLast?, test c = false) :
    trimRight test text = text := by
  have untouched := trimRight_append (List.forall_mem_nil _) ends
  rwa [List.append_nil] at untouched

theorem trim_of_head?_of_getLast? (starts : ∀ c ∈ text.head?, test c = false)
    (ends : ∀ c ∈ text.getLast?, test c = false) : trim test text = text := by
  rw [trim, trimLeft_of_head? starts, trimRight_of_getLast? ends]

theorem trimLeft_trimLeft (test : Char → Bool) (text : List Char) :
    trimLeft test (trimLeft test text) = trimLeft test text :=
  trimLeft_of_head? (head?_trimLeft test text)

theorem trimRight_trimRight (test : Char → Bool) (text : List Char) :
    trimRight test (trimRight test text) = trimRight test text :=
  trimRight_of_getLast? (getLast?_trimRight test text)

theorem trim_trim (test : Char → Bool) (text : List Char) :
    trim test (trim test text) = trim test text :=
  trim_of_head?_of_getLast? (head?_trim test text) (getLast?_trim test text)

/-- Trimming asks for nothing but the characters of the text. -/
theorem trim_congr {other : Char → Bool} (same : ∀ c ∈ text, test c = other c) :
    trim test text = trim other text := by
  obtain ⟨before, after, text_eq, passes⟩ := exists_append_trim test text
  have starts := head?_trim test text
  have ends := getLast?_trim test text
  generalize trim test text = body at text_eq starts ends ⊢
  subst text_eq
  obtain ⟨same_front, same_after⟩ := List.forall_mem_append.1 same
  obtain ⟨same_before, same_inside⟩ := List.forall_mem_append.1 same_front
  have same_around : ∀ c ∈ before ++ after, test c = other c :=
    List.forall_mem_append.2 ⟨same_before, same_after⟩
  refine (trim_append_append (fun c member => ?_) (fun c first => ?_) (fun c last => ?_)).symm
  · rw [← same_around c member]
    exact passes c member
  · rw [← same_inside c (List.mem_of_mem_head? first)]
    exact starts c first
  · rw [← same_inside c (List.mem_of_getLast? last)]
    exact ends c last

/-! ## Longest parts -/

/-- An end of the text that does not begin with a character to be taken away is left. -/
theorem suffix_trimLeft_append (front : List Char) {ending : List Char}
    (starts : ∀ c ∈ ending.head?, test c = false) :
    ending <:+ trimLeft test (front ++ ending) := by
  induction front with
  | nil => exact ⟨[], (trimLeft_of_head? starts).symm⟩
  | cons c front ih =>
    by_cases taken : test c = true
    · rw [List.cons_append, trimLeft, List.dropWhile_cons_of_pos taken]
      exact ih
    · rw [List.cons_append, trimLeft, List.dropWhile_cons_of_neg taken]
      exact List.suffix_append (c :: front) ending

theorem isLongest_trimLeft (test : Char → Bool) (text : List Char) :
    IsLongest (fun part => part <:+ text ∧ ∀ c ∈ part.head?, test c = false)
      (trimLeft test text) where
  admitted := ⟨List.dropWhile_suffix test, head?_trimLeft test text⟩
  longest := by
    rintro ending ⟨⟨front, rfl⟩, starts⟩
    exact (suffix_trimLeft_append front starts).length_le

theorem isLongest_trimRight (test : Char → Bool) (text : List Char) :
    IsLongest (fun part => part <+: text ∧ ∀ c ∈ part.getLast?, test c = false)
      (trimRight test text) where
  admitted := ⟨List.rdropWhile_prefix test text, getLast?_trimRight test text⟩
  longest := by
    rintro start ⟨⟨back, rfl⟩, ends⟩
    rw [← List.head?_reverse] at ends
    have longer := (suffix_trimLeft_append back.reverse ends).length_le
    rw [trimRight, List.length_reverse, List.reverse_append]
    rwa [List.length_reverse] at longer

end PolicyBuiltins.Text
