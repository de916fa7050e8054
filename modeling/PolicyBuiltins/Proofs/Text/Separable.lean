/-
# Texts that can be told apart where they stand

A rendering is made of texts with boundaries behind them: a comma, a colon or a
closing bracket.  One text may well be the beginning of another, as `1` is of `12`.
Two texts are separable when it cannot be mistaken which of them stands in front of
a boundary, and then what stands behind is fixed as well.

Texts without boundary characters are separable, quoted texts are, whatever their
content, and so are listings of separable texts between brackets.
-/

import Mathlib.Data.List.TakeWhile
import PolicyBuiltins.Numeral.Lemmas
import PolicyBuiltins.Text.Quoted

namespace PolicyBuiltins.Text

/-- A character that stands behind a text inside a rendering. -/
def isBoundary (c : Char) : Bool :=
  c == ',' || c == ':' || c == ']' || c == '\x7d'

/-- Nothing follows, or a boundary does. -/
def AtBoundary (rest : List Char) : Prop :=
  ∀ c ∈ rest.head?, isBoundary c = true

/-- Two texts that differ never look the same in front of boundaries. -/
def Separable (first second : List Char) : Prop :=
  ∀ rest rest', AtBoundary rest → AtBoundary rest' →
    first ++ rest = second ++ rest' → first = second

/-- A text that begins with a character that is no boundary. -/
def OpensInside (text : List Char) : Prop :=
  ∃ c rest, text = c :: rest ∧ isBoundary c = false

theorem atBoundary_cons {c : Char} (boundary : isBoundary c = true) (rest : List Char) :
    AtBoundary (c :: rest) := by
  intro d first
  cases first
  exact boundary

theorem Separable.symm {first second : List Char} (separable : Separable first second) :
    Separable second first := by
  intro rest rest' ends ends' same
  exact (separable rest' rest ends' ends same.symm).symm

/-- Separable texts in front of boundaries leave the same behind them. -/
theorem Separable.cancel {first second rest rest' : List Char}
    (separable : Separable first second) (ends : AtBoundary rest) (ends' : AtBoundary rest')
    (same : first ++ rest = second ++ rest') : first = second ∧ rest = rest' := by
  have texts := separable rest rest' ends ends' same
  subst texts
  exact ⟨rfl, List.append_cancel_left same⟩

/-! ## Texts without boundaries -/

theorem takeWhile_of_atBoundary {text rest : List Char}
    (inside : ∀ c ∈ text, isBoundary c = false) (ends : AtBoundary rest) :
    (text ++ rest).takeWhile (!isBoundary ·) = text := by
  have passes : ∀ c ∈ text, (!isBoundary c) = true := by
    intro c member
    rw [inside c member]
    rfl
  rw [List.takeWhile_append_of_pos passes]
  cases rest with
  | nil => rw [List.takeWhile_nil, List.append_nil]
  | cons c rest =>
    have boundary : isBoundary c = true := ends c rfl
    rw [List.takeWhile_cons_of_neg (by simp [boundary]), List.append_nil]

theorem separable_of_no_boundary {first second : List Char}
    (inside : ∀ c ∈ first, isBoundary c = false)
    (inside' : ∀ c ∈ second, isBoundary c = false) : Separable first second := by
  intro rest rest' ends ends' same
  rw [← takeWhile_of_atBoundary inside ends, same, takeWhile_of_atBoundary inside' ends']

/-! ## Quoted texts -/

/-- The character that a short escape stands for, given by what follows the
backslash. -/
def ofShortEscape (c : Char) : Char :=
  if c = '0' then '\x00'
  else if c = 't' then '\t'
  else if c = 'r' then '\r'
  else if c = 'n' then '\n'
  else c

/-- The first character of a quoted text behind its opening quote, and what follows
it. -/
def readQuotedChar : List Char → Option (Char × List Char)
  | [] => none
  | '\\' :: 'u' :: _ :: rest =>
    let digits := rest.takeWhile (· != '\x7d')
    some (Char.ofNat (Numeral.value 16 digits), rest.drop (digits.length + 1))
  | '\\' :: escape :: rest => some (ofShortEscape escape, rest)
  | c :: rest => some (c, rest)

theorem ne_closing_of_mem_hexadecimal {number : Nat} {c : Char}
    (member : c ∈ Numeral.ofNat 16 number) : (c != '\x7d') = true := by
  obtain ⟨digit, small, rfl⟩ := Numeral.exists_digit_of_mem_ofNat (by decide) member
  have every : ∀ digit : Fin 16, (Nat.digitChar digit != '\x7d') = true := by decide
  exact every ⟨digit, small⟩

theorem readQuotedChar_codeEscape (c : Char) (rest : List Char) :
    readQuotedChar (codeEscape c ++ rest) = some (c, rest) := by
  have digits : (Numeral.ofNat 16 c.toNat ++ '\x7d' :: rest).takeWhile (· != '\x7d') =
      Numeral.ofNat 16 c.toNat := by
    rw [List.takeWhile_append_of_pos fun _ => ne_closing_of_mem_hexadecimal,
      List.takeWhile_cons_of_neg (by decide), List.append_nil]
  have shape : codeEscape c ++ rest =
      '\\' :: 'u' :: '\x7b' :: (Numeral.ofNat 16 c.toNat ++ '\x7d' :: rest) := by
    simp [codeEscape]
  rw [shape, readQuotedChar]
  simp only [digits, Numeral.value_ofNat (by decide : 2 ≤ 16) (by decide), Char.ofNat_toNat]
  rw [← List.drop_drop, List.drop_left]
  rfl

/-- The characters that stand for one character are read back as that character. -/
theorem readQuotedChar_quotedChar (c : Char) (rest : List Char) :
    readQuotedChar (quotedChar c ++ rest) = some (c, rest) := by
  unfold quotedChar
  split
  next null => rw [null]; rfl
  split
  next tab => rw [tab]; rfl
  split
  next carriage => rw [carriage]; rfl
  split
  next newline => rw [newline]; rfl
  split
  next quote => rw [quote]; rfl
  split
  next backslash => rw [backslash]; rfl
  next backslash =>
    split
    next => exact readQuotedChar_codeEscape c rest
    next =>
      show readQuotedChar (c :: rest) = some (c, rest)
      unfold readQuotedChar
      split
      next empty => cases empty
      next same => exact absurd (List.cons.inj same).1 backslash
      next same => exact absurd (List.cons.inj same).1 backslash
      next same => rw [(List.cons.inj same).1, (List.cons.inj same).2]

theorem quotedChar_append_inj {c d : Char} {rest rest' : List Char}
    (same : quotedChar c ++ rest = quotedChar d ++ rest') : c = d ∧ rest = rest' := by
  have read := readQuotedChar_quotedChar c rest
  rw [same, readQuotedChar_quotedChar] at read
  have pairs := Option.some.inj read
  exact ⟨(congrArg Prod.fst pairs).symm, (congrArg Prod.snd pairs).symm⟩

/-- No character inside a quoted text looks like its end. -/
theorem quotedChar_append_ne_quote (c : Char) (rest rest' : List Char) :
    quotedChar c ++ rest ≠ '"' :: rest' := by
  intro same
  have read := readQuotedChar_quotedChar c rest
  rw [same] at read
  have quote : '"' = c := congrArg Prod.fst (Option.some.inj read)
  rw [← quote] at same
  simp [quotedChar] at same

theorem flatMap_quotedChar_inj {first second rest rest' : List Char}
    (same : first.flatMap quotedChar ++ '"' :: rest =
      second.flatMap quotedChar ++ '"' :: rest') : first = second := by
  induction first generalizing second with
  | nil =>
    cases second with
    | nil => rfl
    | cons d second =>
      rw [List.flatMap_nil, List.nil_append, List.flatMap_cons, List.append_assoc] at same
      exact absurd same.symm (quotedChar_append_ne_quote d _ _)
  | cons c first ih =>
    rw [List.flatMap_cons, List.append_assoc] at same
    cases second with
    | nil => exact absurd same (quotedChar_append_ne_quote c _ _)
    | cons d second =>
      rw [List.flatMap_cons, List.append_assoc] at same
      obtain ⟨heads, tails⟩ := quotedChar_append_inj same
      rw [heads, ih tails]

/-- Different texts have different quoted forms, whatever follows these. -/
theorem quoted_append_inj {first second rest rest' : List Char}
    (same : quoted first ++ rest = quoted second ++ rest') : first = second := by
  simp only [quoted, List.cons_append, List.append_assoc, List.cons.injEq, true_and] at same
  exact flatMap_quotedChar_inj same

theorem separable_quoted (first second : List Char) :
    Separable (quoted first) (quoted second) := by
  intro rest rest' _ _ same
  rw [quoted_append_inj same]

end PolicyBuiltins.Text
