/-
# Reading is exact

A literal denotes a rational: its digits, those behind the point counted as a fraction,
times the power of ten of its exponent.  The reader gives a number for exactly the texts
in which a literal within the limits stands, and this number denotes what the literal
denotes.  Any other text is refused, and the failure shows it as it was given.

A literal whose normal scale is the least word or below is left aside here: reading it may
leave the words.
-/

import Mathlib.Tactic.Ring
import PolicyBuiltins.Proofs.Decimal.Limits
import PolicyBuiltins.Proofs.Decimal.Rational

namespace PolicyBuiltins.Decimal

namespace Literal

/-- The rational number that a literal denotes. -/
def toRat (literal : Literal) : ℚ :=
  (if literal.negative then -1 else 1) *
    (decimalValue literal.whole +
      decimalValue literal.fraction / 10 ^ literal.fraction.length) *
    10 ^ literal.exponent

/-- The limits on a literal.  Zero is a number at any scale. -/
structure WithinLimits (literal : Literal) : Prop where
  exponent : IsWord literal.exponent
  scale : IsWord (literal.fraction.length - literal.exponent)
  normalScale : literal.toRat = 0 ∨
    ∃ scale, HasNormalScale literal.toRat scale ∧ |scale| ≤ 100000

/-- The number formed from the parts of a literal denotes what the literal denotes. -/
theorem toRat_exact (literal : Literal) : literal.exact.toRat = literal.toRat := by
  have power : (10 : ℚ) ^ (-literal.scale) =
      10 ^ literal.exponent / 10 ^ literal.fraction.length := by
    rw [scale, neg_sub, zpow_sub₀ (by norm_num), zpow_natCast]
  have magnitude : (Numeral.value 10 (literal.whole ++ literal.fraction) : ℚ) =
      decimalValue literal.whole * 10 ^ literal.fraction.length +
        decimalValue literal.fraction := by
    rw [Numeral.value_append, value_eq_decimalValue, value_eq_decimalValue]
    push_cast
    rfl
  have signed : (literal.digits : ℚ) = (if literal.negative then -1 else 1) *
      Numeral.value 10 (literal.whole ++ literal.fraction) := by
    cases sign : literal.negative with
    | true =>
      simp only [digits, sign, ↓reduceIte]
      push_cast
      ring
    | false =>
      simp only [digits, sign, Bool.false_eq_true, ↓reduceIte]
      push_cast
      ring
  rw [exact, toRat_ofParts, power, signed, magnitude, toRat]
  field_simp

theorem withinLimits_iff {literal : Literal} :
    literal.WithinLimits ↔
      IsWord literal.exponent ∧ IsWord literal.scale ∧ |literal.exact.scale| ≤ maxScale := by
  rw [abs_scale_le_iff (by decide), toRat_exact]
  constructor
  · intro within
    exact ⟨within.exponent, within.scale, within.normalScale⟩
  · intro within
    exact ⟨within.1, within.2.1, within.2.2⟩

/-- The scale of the number is zero, or the normal scale of the literal. -/
theorem scale_exact_eq_zero_or_hasNormalScale (literal : Literal) :
    literal.exact.scale = 0 ∨ HasNormalScale literal.toRat literal.exact.scale := by
  rw [← toRat_exact]
  exact scale_eq_zero_or_hasNormalScale literal.exact

theorem leastWord_lt_scale_exact {literal : Literal}
    (apart : ∀ scale, HasNormalScale literal.toRat scale → leastWord < scale) :
    leastWord < literal.exact.scale := by
  rcases literal.scale_exact_eq_zero_or_hasNormalScale with zero_scale | normal
  · rw [zero_scale]
    decide
  · exact apart _ normal

/-- A text has one normal scale at most, that of the literal in it. -/
theorem StandsIn.normalScale_unique {literal other : Literal} {text : List Char}
    {scale otherScale : ℤ} (stands : literal.StandsIn text)
    (normal : HasNormalScale literal.toRat scale) (other_stands : other.StandsIn text)
    (other_normal : HasNormalScale other.toRat otherScale) : otherScale = scale := by
  rw [other_stands.unique stands] at other_normal
  exact other_normal.unique normal

theorem reading_eq_number_iff_toRat {literal : Literal} {number : Decimal} :
    literal.reading = .number number ↔
      literal.WithinLimits ∧ number.toRat = literal.toRat := by
  rw [reading_eq_number_iff, withinLimits_iff, ← toRat_exact, toRat_injective.eq_iff]

end Literal

theorem reading_eq_number_iff_exists_literal {text : List Char} {number : Decimal} :
    reading text = .number number ↔
      ∃ literal : Literal, literal.StandsIn text ∧ literal.WithinLimits ∧
        number.toRat = literal.toRat := by
  rw [reading_eq_iff (by simp)]
  simp only [Literal.reading_eq_number_iff_toRat]

/-- Reading leaves the words only at a normal scale of the least word or below. -/
theorem reading_ne_overflow {text : List Char}
    (apart : ∀ (literal : Literal) (scale : ℤ), literal.StandsIn text →
      HasNormalScale literal.toRat scale → leastWord < scale) : reading text ≠ .overflow := by
  rw [Ne, reading_eq_iff (by simp)]
  rintro ⟨literal, stands, leaves⟩
  have above := Literal.leastWord_lt_scale_exact fun scale => apart literal scale stands
  exact Int.not_lt.2 (Literal.reading_eq_overflow_iff.1 leaves).2.2 above

/-- Reading accepts the texts of the grammar within the limits, and it is exact. -/
theorem ofString_reads_literals (text : String)
    (apart : ∀ (literal : Literal) (scale : ℤ), literal.StandsIn text.toList →
      HasNormalScale literal.toRat scale → leastWord < scale) :
    (∀ number, ofString text = .ok number ↔
      ∃ literal : Literal, literal.StandsIn text.toList ∧ literal.WithinLimits ∧
        number.toRat = literal.toRat) ∧
    (∀ stop, ofString text = .error stop ↔
      (∀ literal : Literal, literal.StandsIn text.toList → ¬ literal.WithinLimits) ∧
        stop = .failure { cause := .invalidNumber text }) := by
  constructor
  · intro number
    rw [ofString_eq_ok_iff, reading_eq_number_iff_exists_literal]
  · intro stop
    have in_words := reading_ne_overflow apart
    rw [ofString_eq_error_iff, or_iff_left fun left => in_words left.1]
    apply and_congr_left'
    constructor
    · intro refused literal stands within
      have read := reading_eq_number_iff_exists_literal.2
        ⟨literal, stands, within, literal.toRat_exact⟩
      cases refused.symm.trans read
    · intro outside
      cases outcome : reading text.toList with
      | number number =>
        obtain ⟨literal, stands, within, -⟩ := reading_eq_number_iff_exists_literal.1 outcome
        exact absurd within (outside literal stands)
      | refused => rfl
      | overflow => exact absurd outcome in_words

/-- Spaces in front, a line break behind, and a point between: the number is that of the
literal, and its digits lose their trailing zeros. -/
theorem ofString_reads_literals_spaced :
    (∀ (literal : Literal) (scale : ℤ), literal.StandsIn " -12.50e3\n".toList →
      HasNormalScale literal.toRat scale → leastWord < scale) ∧
    ∃ number, ofString " -12.50e3\n" = .ok number ∧ number.toRat = -12500 := by
  let literal : Literal :=
    { negative := true, whole := ['1', '2'], fraction := ['5', '0'], exponent := 3 }
  let number : Decimal := ⟨-125, -2, by decide, by decide⟩
  have stands : literal.StandsIn " -12.50e3\n".toList :=
    Literal.standsIn_iff.2 (by decide +kernel)
  have whole_value : decimalValue ['1', '2'] = 12 := by decide
  have fraction_value : decimalValue ['5', '0'] = 50 := by decide
  have literal_rat : literal.toRat = -12500 := by
    norm_num [Literal.toRat, literal, whole_value, fraction_value]
  have number_rat : number.toRat = -12500 := by
    norm_num [toRat, number]
  have normal : HasNormalScale literal.toRat (-2) := by
    rw [literal_rat, ← number_rat]
    exact hasNormalScale_toRat (by decide)
  have apart : ∀ (other : Literal) (scale : ℤ), other.StandsIn " -12.50e3\n".toList →
      HasNormalScale other.toRat scale → leastWord < scale := by
    intro other scale other_stands other_normal
    rw [stands.normalScale_unique normal other_stands other_normal]
    decide
  have within : literal.WithinLimits :=
    ⟨by decide, by decide, Or.inr ⟨-2, normal, by decide⟩⟩
  exact ⟨apart, number, ((ofString_reads_literals _ apart).1 number).2
    ⟨literal, stands, within, by rw [number_rat, literal_rat]⟩, number_rat⟩

end PolicyBuiltins.Decimal
