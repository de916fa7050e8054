/-
# The order of quoted texts

Quoting does not keep the order of texts.  A text that goes on where another one ends is
compared, once both are quoted, with the closing quote, and only the space and the
exclamation mark stand before that.  Where two texts differ first, the escapes of the two
characters are compared, and these may stand the other way round.
-/

import Mathlib.Data.Bool.AllAny
import PolicyBuiltins.Proofs.Text.Separable
import PolicyBuiltins.Text.Sorting

namespace PolicyBuiltins.Text

/-- Two texts in order whose quoted forms are in order as well. -/
inductive QuotesInOrder : List Char → List Char → Prop where
  /-- The second text goes on behind the first one, with a character that the closing quote
  stands before. -/
  | continues {text rest : List Char} {c : Char} (no_space : c ≠ ' ') (no_mark : c ≠ '!') :
      QuotesInOrder text (text ++ c :: rest)
  /-- The first characters that differ are in order, and so are their quoted forms. -/
  | differs {front rest rest' : List Char} {c d : Char} (below : c.toNat < d.toNat)
      (quoted_before : precedes (quotedChar c) (quotedChar d) = true) :
      QuotesInOrder (front ++ c :: rest) (front ++ d :: rest')

/-! ## Comparing behind a common beginning -/

theorem precedes_cons_cons (c : Char) (first second : List Char) :
    precedes (c :: first) (c :: second) = precedes first second := by
  simp [precedes]

theorem precedes_cons_of_ne {c d : Char} (differ : c ≠ d) (first second : List Char) :
    precedes (c :: first) (d :: second) = decide (c.toNat < d.toNat) := by
  simp [precedes, differ]

theorem precedes_append (front first second : List Char) :
    precedes (front ++ first) (front ++ second) = precedes first second := by
  induction front with
  | nil => rfl
  | cons c front ih => rw [List.cons_append, List.cons_append, precedes_cons_cons, ih]

/-- What stands behind texts does not matter if neither begins with the other. -/
theorem precedes_append_of_not_prefix {first second : List Char} (apart : ¬ first <+: second)
    (apart' : ¬ second <+: first) (rest rest' : List Char) :
    precedes (first ++ rest) (second ++ rest') = precedes first second := by
  induction first generalizing second with
  | nil => exact absurd List.nil_prefix apart
  | cons c first ih =>
    cases second with
    | nil => exact absurd List.nil_prefix apart'
    | cons d second =>
      rw [List.cons_append, List.cons_append]
      by_cases same : c = d
      · subst same
        rw [List.cons_prefix_cons, not_and] at apart apart'
        rw [precedes_cons_cons, precedes_cons_cons, ih (apart rfl) (apart' rfl)]
      · rw [precedes_cons_of_ne same, precedes_cons_of_ne same]

/-- Of two texts in order, the second goes on behind the first, or it has a higher character
where they first differ. -/
theorem continues_or_differs_of_precedes {first second : List Char}
    (before : precedes first second = true) (distinct : first ≠ second) :
    (∃ c rest, second = first ++ c :: rest) ∨
      ∃ front c d rest rest', first = front ++ c :: rest ∧ second = front ++ d :: rest' ∧
        c.toNat < d.toNat := by
  induction first generalizing second with
  | nil =>
    obtain ⟨c, rest, rfl⟩ := List.exists_cons_of_ne_nil distinct.symm
    exact Or.inl ⟨c, rest, rfl⟩
  | cons c first ih =>
    cases second with
    | nil => exact absurd before Bool.false_ne_true
    | cons d second =>
      by_cases same : c = d
      · subst same
        rw [precedes_cons_cons] at before
        rcases ih before fun same => distinct (same ▸ rfl) with
          ⟨e, rest, rfl⟩ | ⟨front, e, e', rest, rest', rfl, rfl, below⟩
        · exact Or.inl ⟨e, rest, rfl⟩
        · exact Or.inr ⟨c :: front, e, e', rest, rest', rfl, rfl, below⟩
      · rw [precedes_cons_of_ne same, decide_eq_true_iff] at before
        exact Or.inr ⟨[], c, d, first, second, rfl, rfl, before⟩

/-! ## Quoted characters -/

/-- Characters below the space are escaped. -/
theorem isWrittenByCode_of_lt_space {c : Char} (below : c.toNat < 32) :
    isWrittenByCode c = true := by
  have every : ∀ code : Fin 32, isWrittenByCode (Char.ofNat code) = true := by decide +kernel
  have own := every ⟨c.toNat, below⟩
  rwa [Char.ofNat_toNat] at own

/-- A character is escaped behind a backslash, or stands for itself. -/
theorem quotedChar_eq_or (c : Char) :
    (c ≠ ' ' ∧ c ≠ '!' ∧ ∃ escape, quotedChar c = '\\' :: escape) ∨
      (32 ≤ c.toNat ∧ c ≠ '"' ∧ quotedChar c = [c]) := by
  by_cases short : c ∈ ['\x00', '\t', '\r', '\n', '"', '\\']
  · have every : ∀ mark ∈ ['\x00', '\t', '\r', '\n', '"', '\\'],
        mark ≠ ' ' ∧ mark ≠ '!' ∧ (quotedChar mark).head? = some '\\' :=
      List.all_iff_forall_prop.1 (by decide)
    obtain ⟨no_space, no_mark, opening⟩ := every c short
    exact Or.inl ⟨no_space, no_mark, List.head?_eq_some_iff.1 opening⟩
  · have no_quote : c ≠ '"' := by
      rintro rfl
      exact short (by decide)
    simp only [List.mem_cons, List.not_mem_nil, or_false, not_or] at short
    have plain : quotedChar c = if isWrittenByCode c then codeEscape c else [c] := by
      simp [quotedChar, short]
    cases written : isWrittenByCode c with
    | true =>
      rw [written, if_pos rfl] at plain
      have unwritten : isWrittenByCode ' ' = false ∧ isWrittenByCode '!' = false := by
        decide +kernel
      refine Or.inl ⟨?_, ?_, _, plain⟩
      · rintro rfl
        exact Bool.false_ne_true (unwritten.1.symm.trans written)
      · rintro rfl
        exact Bool.false_ne_true (unwritten.2.symm.trans written)
    | false =>
      rw [written, if_neg Bool.false_ne_true] at plain
      refine Or.inr ⟨Nat.le_of_not_lt fun below => ?_, no_quote, plain⟩
      rw [isWrittenByCode_of_lt_space below] at written
      cases written

/-- The closing quote stands before every quoted character except for the space and the
exclamation mark. -/
theorem quote_precedes_quotedChar_iff (c : Char) (rest : List Char) :
    precedes ['"'] (quotedChar c ++ rest) = true ↔ c ≠ ' ' ∧ c ≠ '!' := by
  rcases quotedChar_eq_or c with ⟨no_space, no_mark, escape, escaped⟩ | ⟨space_le, no_quote, plain⟩
  · rw [escaped]
    exact iff_of_true rfl ⟨no_space, no_mark⟩
  · rw [plain, List.singleton_append, precedes_cons_of_ne no_quote.symm, decide_eq_true_iff]
    have space_code : ' '.toNat = 32 := rfl
    have mark_code : '!'.toNat = 33 := rfl
    have quote_code : '"'.toNat = 34 := rfl
    have quote_ne : c.toNat ≠ 34 := fun same => no_quote (Char.toNat_inj.1 same)
    rw [Ne, Ne, ← Char.toNat_inj, ← Char.toNat_inj]
    omega

theorem not_quotedChar_isPrefix {c d : Char} (differ : c ≠ d) :
    ¬ quotedChar c <+: quotedChar d := by
  rintro ⟨rest, same⟩
  exact differ (quotedChar_append_inj (same.trans (List.append_nil _).symm)).1

/-! ## Quoted texts -/

theorem quoted_append (front rest : List Char) :
    quoted (front ++ rest) =
      ('"' :: front.flatMap quotedChar) ++ (rest.flatMap quotedChar ++ ['"']) := by
  simp [quoted]

theorem precedes_quoted_continued (text rest : List Char) (c : Char) :
    precedes (quoted text) (quoted (text ++ c :: rest)) = true ↔ c ≠ ' ' ∧ c ≠ '!' := by
  have ends : quoted text = ('"' :: text.flatMap quotedChar) ++ ['"'] := rfl
  rw [ends, quoted_append, precedes_append, List.flatMap_cons, List.append_assoc]
  exact quote_precedes_quotedChar_iff c _

theorem precedes_quoted_of_ne {c d : Char} (differ : c ≠ d) (front rest rest' : List Char) :
    precedes (quoted (front ++ c :: rest)) (quoted (front ++ d :: rest')) =
      precedes (quotedChar c) (quotedChar d) := by
  rw [quoted_append, quoted_append, precedes_append, List.flatMap_cons, List.flatMap_cons,
    List.append_assoc, List.append_assoc]
  exact precedes_append_of_not_prefix (not_quotedChar_isPrefix differ)
    (not_quotedChar_isPrefix differ.symm) _ _

/-- Quoting keeps two texts in order exactly if the character that decides has a quoted form
that decides alike. -/
theorem precedes_quoted_iff {first second : List Char} (before : precedes first second = true)
    (distinct : first ≠ second) :
    precedes (quoted first) (quoted second) = true ↔ QuotesInOrder first second := by
  apply Iff.intro
  · intro quoted_before
    rcases continues_or_differs_of_precedes before distinct with
      ⟨c, rest, rfl⟩ | ⟨front, c, d, rest, rest', rfl, rfl, below⟩
    · obtain ⟨no_space, no_mark⟩ := (precedes_quoted_continued first rest c).1 quoted_before
      exact .continues no_space no_mark
    · have differ : c ≠ d := fun same => absurd below (same ▸ Nat.lt_irrefl _)
      rw [precedes_quoted_of_ne differ] at quoted_before
      exact .differs below quoted_before
  · intro in_order
    cases in_order with
    | continues no_space no_mark =>
      exact (precedes_quoted_continued _ _ _).2 ⟨no_space, no_mark⟩
    | @differs front rest rest' c d below quoted_before =>
      have differ : c ≠ d := fun same => absurd below (same ▸ Nat.lt_irrefl _)
      rw [precedes_quoted_of_ne differ]
      exact quoted_before

end PolicyBuiltins.Text
