/-
# What trimming takes away

Trimming cuts a text into three: characters that satisfy the test at both ends, and what
is left between them.  A middle part that neither begins nor ends with such a character
is exactly what trimming leaves.
-/

import Mathlib.Data.List.TakeWhile
import PolicyBuiltins.Text.Trimming

namespace PolicyBuiltins.Text

variable {test : Char → Bool}

theorem exists_append_trimLeft (test : Char → Bool) (text : List Char) :
    ∃ before, text = before ++ trimLeft test text ∧ ∀ c ∈ before, test c = true :=
  ⟨text.takeWhile test, List.takeWhile_append_dropWhile.symm,
    fun _ member => List.mem_takeWhile_imp member⟩

theorem exists_append_trimRight (test : Char → Bool) (text : List Char) :
    ∃ after, text = trimRight test text ++ after ∧ ∀ c ∈ after, test c = true := by
  obtain ⟨before, text_eq, passes⟩ := exists_append_trimLeft test text.reverse
  refine ⟨before.reverse, ?_, fun c member => passes c (List.mem_reverse.1 member)⟩
  rw [trimRight, ← List.reverse_append]
  exact List.reverse_eq_iff.1 text_eq

/-- A text is what trimming leaves of it between characters that satisfy the test. -/
theorem exists_append_trim (test : Char → Bool) (text : List Char) :
    ∃ before after, text = before ++ trim test text ++ after ∧
      ∀ c ∈ before ++ after, test c = true := by
  obtain ⟨before, text_eq, before_passes⟩ := exists_append_trimLeft test text
  obtain ⟨after, left_eq, after_passes⟩ := exists_append_trimRight test (trimLeft test text)
  refine ⟨before, after, ?_, ?_⟩
  · rw [List.append_assoc, trim, ← left_eq, ← text_eq]
  · intro c member
    rcases List.mem_append.1 member with in_before | in_after
    · exact before_passes c in_before
    · exact after_passes c in_after

theorem trimLeft_append {before body : List Char} (passes : ∀ c ∈ before, test c = true)
    (stops : ∀ c ∈ body.head?, test c = false) : trimLeft test (before ++ body) = body := by
  rw [trimLeft, List.dropWhile_append_of_pos passes]
  cases body with
  | nil => rfl
  | cons c body => rw [List.dropWhile_cons_of_neg (by simp [stops c rfl])]

theorem trimRight_append {body after : List Char} (passes : ∀ c ∈ after, test c = true)
    (stops : ∀ c ∈ body.getLast?, test c = false) : trimRight test (body ++ after) = body := by
  have reversed : trimLeft test (after.reverse ++ body.reverse) = body.reverse := by
    apply trimLeft_append
    · exact fun c member => passes c (List.mem_reverse.1 member)
    · rw [List.head?_reverse]
      exact stops
  rw [trimRight, List.reverse_append, ← trimLeft, reversed, List.reverse_reverse]

/-- Trimming takes characters that satisfy the test away from both ends of a part that
neither begins nor ends with one. -/
theorem trim_append_append {before body after : List Char}
    (passes : ∀ c ∈ before ++ after, test c = true)
    (starts : ∀ c ∈ body.head?, test c = false)
    (ends : ∀ c ∈ body.getLast?, test c = false) :
    trim test (before ++ body ++ after) = body := by
  have before_passes : ∀ c ∈ before, test c = true := fun c member =>
    passes c (List.mem_append_left _ member)
  have after_passes : ∀ c ∈ after, test c = true := fun c member =>
    passes c (List.mem_append_right _ member)
  cases body with
  | nil =>
    have all_gone : trimLeft test (before ++ after) = [] := by
      rw [trimLeft, List.dropWhile_eq_nil_iff]
      exact passes
    rw [List.append_nil, trim, all_gone]
    rfl
  | cons c body =>
    have left_gone : trimLeft test (before ++ (c :: body ++ after)) = c :: body ++ after :=
      trimLeft_append before_passes starts
    rw [trim, List.append_assoc, left_gone, trimRight_append after_passes ends]

end PolicyBuiltins.Text
