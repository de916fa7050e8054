/-
# How many digits a number has

A numeral has one digit more than the decimal logarithm of its number, and its first digit
is a zero only where the number is.  Read the other way, a run of digits denotes less than
the power of ten of its length, and it denotes zero only if all of its digits are zeros.
Digits that are to show a number therefore begin with one other than zero, and they still do
so when digits at their end are taken away.
-/

import Mathlib.Data.Nat.Digits.Lemmas
import PolicyBuiltins.Proofs.Decimal.Grammar

namespace PolicyBuiltins.Numeral

/-- A digit is the character of its value. -/
theorem toNat_of_isDigit {c : Char} (digit : c.isDigit = true) :
    c.toNat = digitValue c + 48 ∧ digitValue c < 10 := by
  have bounds := digit
  simp only [Char.isDigit, Bool.and_eq_true, decide_eq_true_eq, ge_iff_le,
    UInt32.le_iff_toNat_le] at bounds
  have lower : 48 ≤ c.toNat := bounds.1
  have upper : c.toNat ≤ 57 := bounds.2
  have value_eq : digitValue c = c.toNat - 48 := by
    rw [digitValue, if_pos digit]
    rfl
  omega

/-- Zero is the only digit of value zero. -/
theorem digitValue_ne_zero {c : Char} (digit : c.isDigit = true) (other : c ≠ '0') :
    digitValue c ≠ 0 := by
  intro zero
  apply other
  apply Char.toNat_inj.1
  rw [(toNat_of_isDigit digit).1, zero]
  rfl

/-- The first digit counts in units of the digits behind it. -/
theorem value_cons (first : Char) (others : List Char) :
    value 10 (first :: others) = digitValue first * 10 ^ others.length + value 10 others := by
  rw [← List.singleton_append, value_append]
  simp [value]

/-- Zeros behind digits multiply their number by ten. -/
theorem value_append_zeros (digits : List Char) (count : ℕ) :
    value 10 (digits ++ List.replicate count '0') = value 10 digits * 10 ^ count := by
  have zeros := value_replicate_zero_append 10 count []
  rw [List.append_nil] at zeros
  rw [value_append, zeros, List.length_replicate]
  rfl

/-- Digits that begin with another one than zero denote at least the power of ten that the
first digit counts. -/
theorem ten_pow_le_value {first : Char} (digit : first.isDigit = true) (other : first ≠ '0')
    (others : List Char) : 10 ^ others.length ≤ value 10 (first :: others) := by
  have positive := Nat.pos_of_ne_zero (digitValue_ne_zero digit other)
  calc 10 ^ others.length ≤ digitValue first * 10 ^ others.length :=
        Nat.le_mul_of_pos_left _ positive
    _ ≤ value 10 (first :: others) := by
        rw [value_cons]
        exact Nat.le_add_right _ _

/-- The last digit is what remains of the number by ten. -/
theorem value_mod_ten {last : Char} (digit : last.isDigit = true) (front : List Char) :
    value 10 (front ++ [last]) % 10 = digitValue last := by
  have small := (toNat_of_isDigit digit).2
  rw [value_append, value_cons, List.length_singleton, show value 10 [] = 0 from rfl,
    List.length_nil]
  omega

/-- A digit other than zero anywhere makes a number other than zero. -/
theorem value_ne_zero_of_mem {digits : List Char} {c : Char} (member : c ∈ digits)
    (digit : c.isDigit = true) (other : c ≠ '0') : value 10 digits ≠ 0 := by
  obtain ⟨front, back, rfl⟩ := List.append_of_mem member
  have unit_pos : 0 < value 10 (c :: back) :=
    Nat.lt_of_lt_of_le (Nat.pow_pos (by omega)) (ten_pow_le_value digit other back)
  rw [value_append]
  omega

/-- A run of digits denotes less than the power of ten of its length. -/
theorem value_lt_ten_pow {digits : List Char} (decimal : ∀ c ∈ digits, c.isDigit = true) :
    value 10 digits < 10 ^ digits.length := by
  have small : ∀ value ∈ digits.reverse.map digitValue, value < 10 := by
    intro value member
    obtain ⟨c, c_member, rfl⟩ := List.mem_map.1 member
    exact (toNat_of_isDigit (decimal c (List.mem_reverse.1 c_member))).2
  have bound := Nat.ofDigits_lt_base_pow_length (by omega) small
  rwa [List.length_map, List.length_reverse, ← Decimal.decimalValue,
    ← Decimal.value_eq_decimalValue] at bound

/-- Only zero is written with a zero in front. -/
theorem head?_ofNat_ne_zero {number : ℕ} (nonzero : number ≠ 0) :
    (ofNat 10 number).head? ≠ some '0' := by
  have numeral := @isNumeral_ofNat 10 (by omega) (by omega) number
  intro zero
  exact numeral.ne_zero nonzero (numeral.no_zero_in_front zero)

/-- The digits of a numeral, the last one first. -/
theorem digits_eq_map_ofNat {number : ℕ} (nonzero : number ≠ 0) :
    Nat.digits 10 number = (ofNat 10 number).reverse.map digitValue := by
  have numeral := @isNumeral_ofNat 10 (by omega) (by omega) number
  exact numeral.digits_eq (by omega) (by omega) (numeral.ne_zero nonzero)

theorem length_ofNat {number : ℕ} (nonzero : number ≠ 0) :
    (ofNat 10 number).length = Nat.log 10 number + 1 := by
  rw [← Nat.length_digits 10 number (by omega) nonzero, digits_eq_map_ofNat nonzero,
    List.length_map, List.length_reverse]

end PolicyBuiltins.Numeral

namespace PolicyBuiltins.Decimal

theorem digitText_ofNat (number : ℕ) : DigitText (Numeral.ofNat 10 number) :=
  ⟨Numeral.ofNat_ne_nil 10 number, fun _ => Numeral.isDigit_of_mem_ofNat⟩

theorem digitText_padded_ofNat (length number : ℕ) :
    DigitText (Numeral.padded length (Numeral.ofNat 10 number)) :=
  ⟨List.append_ne_nil_of_right_ne_nil _ (Numeral.ofNat_ne_nil 10 number),
    fun _ => Numeral.isDigit_of_mem_padded fun _ => Numeral.isDigit_of_mem_ofNat⟩

/-- Digits that begin with a zero only if nothing rules it out. -/
structure LeadingDigits (nonzero : Prop) (digits : List Char) : Prop where
  decimal : DigitText digits
  head?_ne_zero : nonzero → digits.head? ≠ some '0'

section
variable {nonzero : Prop} {kept removed digits : List Char}

/-- Digits may be taken away at the end as long as one is left. -/
theorem LeadingDigits.of_append (leads : LeadingDigits nonzero (kept ++ removed))
    (left : kept ≠ []) : LeadingDigits nonzero kept := by
  refine ⟨⟨left, fun c member => leads.decimal.isDigit c (List.mem_append_left _ member)⟩, ?_⟩
  intro holds zero
  apply leads.head?_ne_zero holds
  rw [List.head?_append, zero]
  rfl

theorem LeadingDigits.take (leads : LeadingDigits nonzero digits) {count : ℕ}
    (some_left : count ≠ 0) : LeadingDigits nonzero (digits.take count) := by
  have left : digits.take count ≠ [] := by
    rw [Ne, List.take_eq_nil_iff, not_or]
    exact ⟨some_left, leads.decimal.ne_nil⟩
  rw [← List.take_append_drop count digits] at leads
  exact leads.of_append left

theorem leadingDigits_ofNat {number : ℕ} (positive : number ≠ 0) :
    LeadingDigits nonzero (Numeral.ofNat 10 number) :=
  ⟨digitText_ofNat number, fun _ => Numeral.head?_ofNat_ne_zero positive⟩

end

end PolicyBuiltins.Decimal
