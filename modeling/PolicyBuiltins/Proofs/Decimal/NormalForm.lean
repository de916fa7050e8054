/-
# The normal form of numbers

The digits and the scale of a number come out of a loop that takes zeros off, whatever the
number is made of.  The loop leaves zero at scale zero and other digits without a zero at
their end.  So a rational has one pair of digits and scale, equal pairs are equal numbers,
and the sign of the scale alone tells an integer.
-/

import PolicyBuiltins.Binary64.Scientific
import PolicyBuiltins.Proofs.Decimal.Limits
import PolicyBuiltins.Proofs.Decimal.Rational

namespace PolicyBuiltins.Decimal

/-- Digits and a scale in normal form. -/
structure NormalParts (digits : Int) (scale : Int64) : Prop where
  scale_of_zero : digits = 0 → scale = 0
  not_ten_dvd : digits ≠ 0 → ¬ (10 : Int) ∣ digits

/-- The numbers that are made of digits and a scale, of an integer, of a text or of a
binary64 number, and zero. -/
inductive Made : Decimal → Prop
  | parts (digits : Int) (scale : Int64) : Made (ofParts digits scale.toInt)
  | integer (integer : Int) : Made (ofInt integer)
  | text {text : String} {number : Decimal} : ofString text = .ok number → Made number
  | binary64 {bits : UInt64} {number : Decimal} :
      Binary64.decimalOfBits? bits = some number → Made number
  | zero : Made zero

/-- The loop ends in normal form. -/
theorem normalParts_of_settle? {digits digits' : Int} {scale scale' : Int64}
    (settled : settle? digits scale = some (digits', scale')) : NormalParts digits' scale' := by
  fun_induction settle? digits scale with
  | case1 scale =>
    cases settled
    exact ⟨fun _ => rfl, fun nonzero => absurd rfl nonzero⟩
  | case2 digits scale nonzero trailing lower held ih => exact ih settled
  | case3 digits scale nonzero trailing leaves => cases settled
  | case4 digits scale nonzero last =>
    cases settled
    exact ⟨fun zero_digits => absurd zero_digits nonzero,
      fun _ divides => last (Int.tmod_eq_zero_of_dvd divides)⟩

/-- Digits and a word as scale are brought to normal form by the loop. -/
theorem normalParts_ofParts {digits start : Int} {scale : Int64} (start_fits : IsWord start)
    (held : word? (ofParts digits start).scale = some scale) :
    NormalParts (ofParts digits start).digits scale := by
  have settled := settle?_eq digits (Int64.ofInt start)
  rw [toInt_ofInt_of_isWord start_fits, held] at settled
  exact normalParts_of_settle? settled

/-- A number that is made is in normal form, as long as its scale is a word. -/
theorem Made.normalParts {number : Decimal} {scale : Int64} (made : Made number)
    (held : word? number.scale = some scale) : NormalParts number.digits scale := by
  cases made with
  | parts digits start => exact normalParts_ofParts (isWord_toInt start) held
  | integer integer => exact normalParts_ofParts (by decide) held
  | text read =>
    obtain ⟨literal, -, literal_read⟩ :=
      (reading_eq_iff (by simp)).1 (ofString_eq_ok_iff.1 read)
    obtain ⟨⟨-, scale_fits, -⟩, rfl⟩ := Literal.reading_eq_number_iff.1 literal_read
    exact normalParts_ofParts scale_fits held
  | binary64 =>
    -- The shortest digits are formed into a number without a word for their scale.
    refine ⟨fun zero_digits => ?_, not_ten_dvd_digits⟩
    rw [number.scale_of_zero zero_digits] at held
    exact (Option.some.inj held).symm
  | zero =>
    cases held
    exact ⟨fun _ => rfl, fun nonzero => absurd rfl nonzero⟩

/-- Every number that is made is in normal form.  The loop reaches that form whenever its
scale is a word, numbers of the same rational are equal in digits and scale, and the sign
of the scale alone tells an integer. -/
theorem normal_form_decides_equality_and_integers :
    (∀ (number : Decimal) (scale : Int64), Made number → word? number.scale = some scale →
      NormalParts number.digits scale) ∧
    (∀ (digits : Int) (scale : Int64), settle? digits scale =
      (word? (ofParts digits scale.toInt).scale).map
        fun settled => ((ofParts digits scale.toInt).digits, settled)) ∧
    (∀ digits scale digits' scale' : ℤ,
      (ofParts digits scale == ofParts digits' scale') = true ↔
        (digits : ℚ) * 10 ^ (-scale) = digits' * 10 ^ (-scale')) ∧
    (∀ number : Decimal, number.isInteger = true ↔ ∃ integer : ℤ, number.toRat = integer) := by
  refine ⟨fun number scale made held => made.normalParts held, settle?_eq, ?_,
    fun number => isInteger_iff_exists_int⟩
  intro digits scale digits' scale'
  rw [beq_iff_eq, ← toRat_eq_iff_eq_ofParts, toRat_ofParts]

end PolicyBuiltins.Decimal
