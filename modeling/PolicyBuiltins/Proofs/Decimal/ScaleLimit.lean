/-
# The limit on scales

Reading keeps the limit on scales when it refuses the text or gives a number whose scale is
within the limit.  For the literals whose normal scale is a word there is one exception: at
a normal scale of the least word, the magnitude that the limit is put on is not a word, and
reading stops there with neither a number nor a refusal.
-/

import PolicyBuiltins.Proofs.Decimal.Exactness

namespace PolicyBuiltins.Decimal

/-- Reading stays in the words, and it refuses the text or gives a number whose scale
keeps the limit. -/
def KeepsScaleLimit (text : String) : Prop :=
  ofString text = .error (.failure { cause := .invalidNumber text }) ∨
    ∃ number, ofString text = .ok number ∧ |number.scale| ≤ 100000

/-- Every number that comes out of a text keeps the limit, so the limit is kept as long as
reading does not leave the words. -/
theorem keepsScaleLimit_iff_reading_ne_overflow {text : String} :
    KeepsScaleLimit text ↔ reading text.toList ≠ .overflow := by
  constructor
  · intro keeps overflow
    have stopped : ofString text = .error .overflow :=
      ofString_eq_error_iff.2 (Or.inr ⟨overflow, rfl⟩)
    rcases keeps with refused | ⟨number, read, -⟩
    · cases refused.symm.trans stopped
    · cases read.symm.trans stopped
  · intro in_words
    cases outcome : reading text.toList with
    | number number =>
      obtain ⟨literal, -, literal_read⟩ := (reading_eq_iff (by simp)).1 outcome
      obtain ⟨⟨-, -, bounded⟩, rfl⟩ := Literal.reading_eq_number_iff.1 literal_read
      exact Or.inr ⟨literal.exact, ofString_eq_ok_iff.2 outcome, bounded⟩
    | refused => exact Or.inl (ofString_eq_error_iff.2 (Or.inl ⟨outcome, rfl⟩))
    | overflow => exact absurd outcome in_words

theorem hasNormalScale_leastWord_iff {literal : Literal} :
    HasNormalScale literal.toRat leastWord ↔ literal.exact.scale = leastWord := by
  rw [← Literal.toRat_exact, hasNormalScale_toRat_iff]
  apply and_iff_right_of_imp
  intro least zero_digits
  rw [literal.exact.scale_of_zero zero_digits] at least
  exact absurd least (by decide)

theorem isWord_scale_exact {literal : Literal}
    (inside : ∀ scale, HasNormalScale literal.toRat scale → IsWord scale) :
    IsWord literal.exact.scale := by
  rcases literal.scale_exact_eq_zero_or_hasNormalScale with zero_scale | normal
  · rw [zero_scale]
    decide
  · exact inside _ normal

/-- Among the literals whose normal scale is a word, the limit is missed at the least word
alone, and only if nothing else refuses the literal. -/
theorem keepsScaleLimit_iff (text : String)
    (inside : ∀ (literal : Literal) (scale : ℤ), literal.StandsIn text.toList →
      HasNormalScale literal.toRat scale → IsWord scale) :
    KeepsScaleLimit text ↔
      ∀ literal : Literal, literal.StandsIn text.toList → IsWord literal.exponent →
        IsWord (literal.fraction.length - literal.exponent) →
        ¬ HasNormalScale literal.toRat leastWord := by
  rw [keepsScaleLimit_iff_reading_ne_overflow, Ne, reading_eq_iff (by simp)]
  simp only [Literal.reading_eq_overflow_iff, hasNormalScale_leastWord_iff]
  constructor
  · intro in_words literal stands exponent_fits scale_fits least
    exact in_words ⟨literal, stands, exponent_fits, scale_fits, Int.le_of_eq least⟩
  · rintro never_least ⟨literal, stands, exponent_fits, scale_fits, low⟩
    have normal_fits := isWord_scale_exact fun scale => inside literal scale stands
    exact never_least literal stands exponent_fits scale_fits
      (Int.le_antisymm low normal_fits.1)

/-- One above the least word, the literal is refused without leaving the words. -/
theorem keepsScaleLimit_above_least_word :
    (∀ (literal : Literal) (scale : ℤ), literal.StandsIn "1e9223372036854775807".toList →
      HasNormalScale literal.toRat scale → IsWord scale) ∧
    KeepsScaleLimit "1e9223372036854775807" := by
  let literal : Literal :=
    { negative := false, whole := ['1'], fraction := [], exponent := 9223372036854775807 }
  have stands : literal.StandsIn "1e9223372036854775807".toList :=
    Literal.standsIn_iff.2 (by decide +kernel)
  have exact_scale : literal.exact.scale = leastWord + 1 := by decide +kernel
  have normal : HasNormalScale literal.toRat (leastWord + 1) := by
    rcases literal.scale_exact_eq_zero_or_hasNormalScale with zero_scale | normal
    · rw [exact_scale] at zero_scale
      exact absurd zero_scale (by decide)
    · rwa [exact_scale] at normal
  have inside : ∀ (other : Literal) (scale : ℤ), other.StandsIn "1e9223372036854775807".toList →
      HasNormalScale other.toRat scale → IsWord scale := by
    intro other scale other_stands other_normal
    rw [stands.normalScale_unique normal other_stands other_normal]
    decide
  refine ⟨inside, (keepsScaleLimit_iff _ inside).2 ?_⟩
  intro other other_stands _ _ least
  exact absurd (stands.normalScale_unique normal other_stands least) (by decide)

/-- A literal whose normal scale is the least word: reading leaves the words. -/
theorem not_keepsScaleLimit_at_least_word :
    (∀ (literal : Literal) (scale : ℤ), literal.StandsIn "10e9223372036854775807".toList →
      HasNormalScale literal.toRat scale → IsWord scale) ∧
    ¬ KeepsScaleLimit "10e9223372036854775807" ∧
    ofString "10e9223372036854775807" = .error .overflow := by
  let literal : Literal :=
    { negative := false, whole := ['1', '0'], fraction := [], exponent := 9223372036854775807 }
  have stands : literal.StandsIn "10e9223372036854775807".toList :=
    Literal.standsIn_iff.2 (by decide +kernel)
  have least : literal.exact.scale = leastWord := by decide +kernel
  have overflow : reading "10e9223372036854775807".toList = .overflow := by
    rw [reading_of_standsIn stands, Literal.reading_eq_overflow_iff]
    exact ⟨by decide, by decide, Int.le_of_eq least⟩
  refine ⟨?_, ?_, ofString_eq_error_iff.2 (Or.inr ⟨overflow, rfl⟩)⟩
  · intro other scale other_stands other_normal
    rw [stands.normalScale_unique (hasNormalScale_leastWord_iff.2 least) other_stands
      other_normal]
    decide
  · rw [keepsScaleLimit_iff_reading_ne_overflow]
    exact fun in_words => in_words overflow

end PolicyBuiltins.Decimal
