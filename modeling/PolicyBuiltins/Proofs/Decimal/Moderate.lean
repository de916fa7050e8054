/-
# Literals of moderate size

The limits on a literal concern the scale of its normal form, which is not visible in its
text.  Enough room for it is visible: the normal form lowers the scale by less than the
count of digits.  A literal with few digits and a small exponent is therefore always read,
and its number is zero only if all of its digits are zeros.
-/

import PolicyBuiltins.Proofs.Decimal.Limits
import PolicyBuiltins.Proofs.Decimal.Rational
import PolicyBuiltins.Proofs.Numeral.Digits

namespace PolicyBuiltins.Decimal

namespace Literal

/-- The point, moved by the exponent, stays within the limit on both sides of the digits. -/
structure IsModerate (literal : Literal) : Prop where
  scale_le : literal.scale ≤ maxScale
  exponent_le : literal.exponent + literal.whole.length ≤ maxScale

section
variable {literal : Literal}

theorem natAbs_digits (literal : Literal) :
    literal.digits.natAbs = Numeral.value 10 (literal.whole ++ literal.fraction) := by
  cases sign : literal.negative with
  | true => simp only [digits, sign, ↓reduceIte, Int.natAbs_neg, Int.natAbs_natCast]
  | false => simp only [digits, sign, Bool.false_eq_true, ↓reduceIte, Int.natAbs_natCast]

/-- The normal form lowers the scale by less than the count of digits. -/
theorem scale_lt_scale_exact_add (decimal : DigitText (literal.whole ++ literal.fraction))
    (nonzero : literal.digits ≠ 0) :
    literal.scale < literal.exact.scale + (literal.whole ++ literal.fraction).length := by
  have lowered : literal.exact.scale ≤ literal.scale := scale_ofParts_le nonzero literal.scale
  have kept : literal.exact.digits *
      (10 ^ (literal.scale - literal.exact.scale).toNat : Nat) = literal.digits :=
    digits_ofParts_mul_pow literal.digits literal.scale
  have magnitude := congrArg Int.natAbs kept
  rw [Int.natAbs_mul, Int.natAbs_natCast, natAbs_digits] at magnitude
  have digits_pos : 0 < literal.exact.digits.natAbs := by
    apply Int.natAbs_pos.2
    intro zero
    rw [zero, Int.zero_mul] at kept
    exact nonzero kept.symm
  have power_lt : 10 ^ (literal.scale - literal.exact.scale).toNat <
      10 ^ (literal.whole ++ literal.fraction).length := by
    calc 10 ^ (literal.scale - literal.exact.scale).toNat
        ≤ literal.exact.digits.natAbs * 10 ^ (literal.scale - literal.exact.scale).toNat :=
          Nat.le_mul_of_pos_left _ digits_pos
      _ = Numeral.value 10 (literal.whole ++ literal.fraction) := magnitude
      _ < 10 ^ (literal.whole ++ literal.fraction).length :=
          Numeral.value_lt_ten_pow decimal.isDigit
  have exponent_lt := (Nat.pow_lt_pow_iff_right (by decide : 1 < 10)).1 power_lt
  omega

theorem abs_scale_exact_le (moderate : literal.IsModerate)
    (decimal : DigitText (literal.whole ++ literal.fraction)) :
    |literal.exact.scale| ≤ maxScale := by
  by_cases zero : literal.digits = 0
  · rw [exact, zero, show (ofParts 0 literal.scale).scale = 0 from rfl]
    decide
  · have lowered : literal.exact.scale ≤ literal.scale := scale_ofParts_le zero literal.scale
    have few := scale_lt_scale_exact_add decimal zero
    have scale_le := moderate.scale_le
    have exponent_le := moderate.exponent_le
    rw [List.length_append, Nat.cast_add] at few
    have scale_eq : literal.scale = literal.fraction.length - literal.exponent := rfl
    rw [abs_le]
    omega

/-- A literal of moderate size is read as the number that its parts denote. -/
theorem reading_of_isModerate (moderate : literal.IsModerate)
    (decimal : DigitText (literal.whole ++ literal.fraction)) :
    literal.reading = .number literal.exact := by
  have limited := abs_scale_exact_le moderate decimal
  have scale_eq : literal.scale = literal.fraction.length - literal.exponent := rfl
  have bounds := And.intro moderate.scale_le moderate.exponent_le
  simp only [maxScale] at bounds
  have exponent_fits : IsWord literal.exponent := by
    simp only [IsWord, leastWord, greatestWord]
    omega
  have scale_fits : IsWord literal.scale := by
    simp only [IsWord, leastWord, greatestWord]
    omega
  exact reading_eq_number_iff.2 ⟨⟨exponent_fits, scale_fits, limited⟩, rfl⟩

end

end Literal

variable {literal : Literal} {text : List Char}

theorem ofString_of_isModerate (written : LiteralText literal text)
    (moderate : literal.IsModerate) :
    ofString (String.ofList text) = .ok literal.exact := by
  have decimal : DigitText (literal.whole ++ literal.fraction) := by
    obtain ⟨_, _, decimal, _⟩ := written
    exact decimal
  have stands : literal.StandsIn text := ⟨[], text, [], by simp, by simp, written⟩
  rw [ofString_eq_ok_iff, String.toList_ofList, reading_of_standsIn stands]
  exact Literal.reading_of_isModerate moderate decimal

/-- A digit other than zero makes a number other than zero. -/
theorem toRat_exact_ne_zero (decimal : DigitText (literal.whole ++ literal.fraction)) {c : Char}
    (member : c ∈ literal.whole ++ literal.fraction) (other : c ≠ '0') :
    literal.exact.toRat ≠ 0 := by
  have magnitude : literal.digits ≠ 0 := by
    rw [← Int.natAbs_ne_zero, Literal.natAbs_digits]
    exact Numeral.value_ne_zero_of_mem member (decimal.isDigit c member) other
  rw [Literal.exact, toRat_ofParts]
  exact mul_ne_zero (Int.cast_ne_zero.2 magnitude) (ten_zpow_ne_zero _)

end PolicyBuiltins.Decimal
