/-
# The normal form in words

The loop that takes zeros off the digits lowers the scale by one for each of them, and the
scale lives in a 64-bit word.  The loop reaches the normal form exactly when the scale of
that form is a word: the scale only falls, so if its last value is a word all values on the
way are.
-/

import PolicyBuiltins.Decimal.Lemmas

namespace PolicyBuiltins.Decimal

/-- A zero at the end of the digits is the same number at the scale below. -/
theorem ofParts_of_tmod_eq_zero {digits : Int} (trailing : digits.tmod 10 = 0) (scale : Int) :
    ofParts digits scale = ofParts (digits.tdiv 10) (scale - 1) := by
  have whole : digits.tdiv 10 * (10 ^ 1 : Nat) = digits := by
    have := Int.tdiv_mul_add_tmod digits 10
    omega
  conv_lhs => rw [← whole]
  exact ofParts_mul_ten_pow (digits.tdiv 10) scale 1

/-- Digits that do not end in zero are in normal form at any scale. -/
theorem ofParts_of_tmod_ne_zero {digits : Int} (settled : digits.tmod 10 ≠ 0) (scale : Int) :
    (ofParts digits scale).digits = digits ∧ (ofParts digits scale).scale = scale := by
  have nonzero : digits ≠ 0 := by
    intro zero_digits
    rw [zero_digits] at settled
    exact settled rfl
  have last : digits % 10 ≠ 0 := fun ends =>
    settled (Int.tmod_eq_zero_of_dvd (Int.dvd_of_emod_eq_zero ends))
  have kept := ofParts_digits_scale
    { digits, scale, scale_of_zero := (absurd · nonzero), last_digit_ne_zero := fun _ => last }
  exact ⟨congrArg Decimal.digits kept, congrArg Decimal.scale kept⟩

/-- The loop ends with the digits of the normal form, and with its scale if that is a
word. -/
theorem settle?_eq (digits : Int) (scale : Int64) :
    settle? digits scale =
      (word? (ofParts digits scale.toInt).scale).map
        fun settled => ((ofParts digits scale.toInt).digits, settled) := by
  fun_induction settle? digits scale with
  | case1 scale => rfl
  | case2 digits scale nonzero trailing lower held ih =>
    rw [ih, toInt_of_word?_eq_some held, ← ofParts_of_tmod_eq_zero trailing]
  | case3 digits scale nonzero trailing leaves =>
    have shorter_ne_zero : digits.tdiv 10 ≠ 0 := by
      have whole := Int.tdiv_mul_add_tmod digits 10
      omega
    have below := scale_ofParts_le shorter_ne_zero (scale.toInt - 1)
    rw [← ofParts_of_tmod_eq_zero trailing] at below
    have final_leaves : ¬ IsWord (ofParts digits scale.toInt).scale := by
      intro fits
      have scale_fits := isWord_toInt scale
      exact word?_eq_none_iff.1 leaves
        ⟨Int.le_trans fits.1 below, Int.le_trans (by omega) scale_fits.2⟩
    rw [word?_eq_none_iff.2 final_leaves]
    rfl
  | case4 digits scale nonzero settled =>
    obtain ⟨same_digits, same_scale⟩ := ofParts_of_tmod_ne_zero settled scale.toInt
    rw [same_digits, same_scale, word?_toInt]
    rfl

/-- In words the number of digits and a scale is made exactly if its normal scale is a
word. -/
theorem ofWordScale?_eq (digits : Int) (scale : Int64) :
    ofWordScale? digits scale =
      if IsWord (ofParts digits scale.toInt).scale then some (ofParts digits scale.toInt)
      else none := by
  rw [ofWordScale?, settle?_eq, word?]
  split
  next fits => simp only [Option.map_some, toInt_ofInt_of_isWord fits, ofParts_digits_scale]
  next => rfl

/-- The normal form of a word's scale does not exceed the words. -/
theorem scale_ofParts_le_greatestWord {digits scale : Int} (fits : IsWord scale) :
    (ofParts digits scale).scale ≤ greatestWord := by
  by_cases zero_digits : digits = 0
  · rw [zero_digits, show (ofParts 0 scale).scale = 0 from rfl]
    decide
  · exact Int.le_trans (scale_ofParts_le zero_digits scale) fits.2

end PolicyBuiltins.Decimal
