/-
# The limits on number literals

A literal is refused if its exponent or its scale leaves a word, and else if the scale of
its normal form is too large.  Reading takes this scale, and its magnitude, in words.  Every
word other than the least has its magnitude among the words, so for all scales above the
least word the limit is the plain bound.  At the least word and below it, reading leaves the
words.
-/

import Mathlib.Algebra.Order.Group.Unbundled.Int
import PolicyBuiltins.Decimal.Reading
import PolicyBuiltins.Proofs.Decimal.TextReading
import PolicyBuiltins.Proofs.Decimal.WordArithmetic

namespace PolicyBuiltins.Decimal

theorem isWord_natAbs {number : Int} (fits : IsWord number) (above : leastWord < number) :
    IsWord number.natAbs := by
  unfold IsWord leastWord greatestWord at *
  omega

namespace Reading

/-- Above the least word, the limit is a bound on the magnitude. -/
theorem limit_of_leastWord_lt {number : Decimal} (fits : IsWord number.scale)
    (above : leastWord < number.scale) :
    limit number = if |number.scale| ≤ maxScale then .number number else .refused := by
  have magnitude_fits := isWord_natAbs fits above
  simp only [limit, word?_of_isWord magnitude_fits, Int64.le_iff_toInt_le,
    toInt_ofInt_of_isWord magnitude_fits, Int.abs_eq_natAbs]
  rfl

/-- The least word has no magnitude among the words. -/
theorem limit_of_eq_leastWord {number : Decimal} (least : number.scale = leastWord) :
    limit number = .overflow := by
  rw [limit, least]
  rfl

end Reading

namespace Literal

variable {literal : Literal} {number : Decimal}

theorem reading_of_not_isWord (outside : ¬ (IsWord literal.exponent ∧ IsWord literal.scale)) :
    literal.reading = .refused := by
  unfold reading
  split
  next exponent scale exponent_held scale_held =>
    have exponent_fits : IsWord literal.exponent :=
      toInt_of_word?_eq_some exponent_held ▸ isWord_toInt exponent
    have scale_fits : IsWord literal.scale :=
      toInt_of_word?_eq_some scale_held ▸ isWord_toInt scale
    exact absurd ⟨exponent_fits, scale_fits⟩ outside
  next => rfl

/-- Where exponent and scale are words, the number goes through the loop and the limit. -/
theorem reading_of_isWord (exponent_fits : IsWord literal.exponent)
    (scale_fits : IsWord literal.scale) :
    literal.reading = if IsWord literal.exact.scale then .limit literal.exact else .overflow := by
  simp only [reading, word?_of_isWord exponent_fits, word?_of_isWord scale_fits,
    ofWordScale?_eq, toInt_ofInt_of_isWord scale_fits]
  rw [← exact]
  by_cases normal_fits : IsWord literal.exact.scale
  · simp only [if_pos normal_fits]
  · simp only [if_neg normal_fits]

/-- The outcomes of a reading, by the limits on a literal. -/
theorem reading_eq (literal : Literal) :
    literal.reading =
      if IsWord literal.exponent ∧ IsWord literal.scale then
        if leastWord < literal.exact.scale then
          if |literal.exact.scale| ≤ maxScale then .number literal.exact else .refused
        else .overflow
      else .refused := by
  by_cases fits : IsWord literal.exponent ∧ IsWord literal.scale
  · rw [if_pos fits, reading_of_isWord fits.1 fits.2]
    have upper : literal.exact.scale ≤ greatestWord := scale_ofParts_le_greatestWord fits.2
    by_cases above : leastWord < literal.exact.scale
    · have normal_fits : IsWord literal.exact.scale := ⟨Int.le_of_lt above, upper⟩
      rw [if_pos above, if_pos normal_fits, Reading.limit_of_leastWord_lt normal_fits above]
    · rw [if_neg above]
      split
      next normal_fits =>
        exact Reading.limit_of_eq_leastWord (Int.le_antisymm (Int.not_lt.1 above) normal_fits.1)
      next => rfl
  · rw [if_neg fits, reading_of_not_isWord fits]

/-- A literal within the limits has the number that its parts denote. -/
theorem reading_eq_number_iff :
    literal.reading = .number number ↔
      (IsWord literal.exponent ∧ IsWord literal.scale ∧ |literal.exact.scale| ≤ maxScale) ∧
        number = literal.exact := by
  have above_of_bounded (bounded : |literal.exact.scale| ≤ maxScale) :
      leastWord < literal.exact.scale :=
    lt_of_lt_of_le (by decide) (abs_le.1 bounded).1
  rw [reading_eq]
  split_ifs with fits above bounded <;> grind

/-- Reading leaves the words where the normal scale is the least word or below, unless the
literal has been refused before. -/
theorem reading_eq_overflow_iff :
    literal.reading = .overflow ↔
      IsWord literal.exponent ∧ IsWord literal.scale ∧ literal.exact.scale ≤ leastWord := by
  rw [reading_eq]
  split_ifs with fits above bounded <;> grind

end Literal

/-! ## Texts -/

variable {text : List Char} {number : Decimal}

theorem reading_of_standsIn {literal : Literal} (stands : literal.StandsIn text) :
    reading text = literal.reading := by
  rw [reading, Literal.standsIn_iff.1 stands]

theorem reading_of_forall_not_standsIn
    (absent : ∀ literal : Literal, ¬ literal.StandsIn text) : reading text = .refused := by
  unfold reading
  split
  next literal shape => exact absurd (Literal.standsIn_iff.2 shape) (absent literal)
  next => rfl

/-- A text that is not refused is read as the literal that stands in it. -/
theorem reading_eq_iff {outcome : Reading} (read : outcome ≠ .refused) :
    reading text = outcome ↔
      ∃ literal : Literal, literal.StandsIn text ∧ literal.reading = outcome := by
  constructor
  · intro reading_eq
    by_cases found : ∃ literal : Literal, literal.StandsIn text
    · obtain ⟨literal, stands⟩ := found
      exact ⟨literal, stands, (reading_of_standsIn stands).symm.trans reading_eq⟩
    · have absent : ∀ literal : Literal, ¬ literal.StandsIn text := not_exists.1 found
      exact absurd ((reading_of_forall_not_standsIn absent).symm.trans reading_eq).symm read
  · rintro ⟨literal, stands, rfl⟩
    exact reading_of_standsIn stands

theorem ofString_eq_ok_iff {text : String} :
    ofString text = .ok number ↔ reading text.toList = .number number := by
  unfold ofString
  split
  next outcome => simp [outcome]
  next outcome => simp [outcome]
  next outcome => simp [outcome]

/-- Reading a string stops at a refused text, and the failure carries the whole text, or
because a step leaves the words. -/
theorem ofString_eq_error_iff {text : String} {stop : Stop} :
    ofString text = .error stop ↔
      (reading text.toList = .refused ∧ stop = .failure { cause := .invalidNumber text }) ∨
        (reading text.toList = .overflow ∧ stop = .overflow) := by
  unfold ofString
  split
  next outcome => simp [outcome]
  next outcome => simp [outcome, eq_comm]
  next outcome => simp [outcome, eq_comm]

end PolicyBuiltins.Decimal
