/-
# Canonical numerals

A numeral is canonical if its digits are those of its radix, letters in lower case, and if it
has no zero in front of other digits.  Its digits, the last one first, are then those that
division by the radix gives, so every natural number has one canonical numeral.  An integer
has that of its magnitude, behind a minus if it is negative.
-/

import Mathlib.Data.List.Induction
import Mathlib.Data.Nat.Digits.Lemmas
import PolicyBuiltins.Numeral.Lemmas

namespace PolicyBuiltins.Numeral

/-- The canonical numeral of a natural number. -/
structure IsNumeral (radix number : ℕ) (digits : List Char) : Prop where
  nonempty : digits ≠ []
  lower : ∀ c ∈ digits, c ∈ "0123456789abcdef".toList.take radix
  no_zero_in_front : digits.head? = some '0' → digits = ['0']
  denotes : value radix digits = number

/-- The canonical numeral of an integer. -/
inductive IsIntegerNumeral (radix : ℕ) : ℤ → List Char → Prop where
  | nonnegative {number : ℕ} {digits : List Char} (numeral : IsNumeral radix number digits) :
      IsIntegerNumeral radix number digits
  | negative {number : ℕ} {digits : List Char} (positive : 0 < number)
      (numeral : IsNumeral radix number digits) :
      IsIntegerNumeral radix (-number) ('-' :: digits)

variable {radix number : ℕ} {digits : List Char}

/-! ## Digits -/

/-- The characters of the digits below a radix. -/
theorem mem_take_iff_exists_digitChar (readable : radix ≤ 16) {c : Char} :
    c ∈ "0123456789abcdef".toList.take radix ↔ ∃ digit < radix, c = Nat.digitChar digit := by
  have every : ∀ digit : Fin 16, "0123456789abcdef".toList[digit] = Nat.digitChar digit := by
    decide
  rw [List.mem_take_iff_getElem]
  apply Iff.intro
  · rintro ⟨digit, below, rfl⟩
    have small : digit < 16 := (Nat.lt_min.1 below).2
    exact ⟨digit, (Nat.lt_min.1 below).1, every ⟨digit, small⟩⟩
  · rintro ⟨digit, below, rfl⟩
    have small : digit < 16 := Nat.lt_of_lt_of_le below readable
    exact ⟨digit, Nat.lt_min.2 ⟨below, small⟩, every ⟨digit, small⟩⟩

/-- A digit has a value below the radix, and is the character of that value. -/
theorem digitValue_lt_and_digitChar_eq (readable : radix ≤ 16) {c : Char}
    (inside : c ∈ "0123456789abcdef".toList.take radix) :
    digitValue c < radix ∧ Nat.digitChar (digitValue c) = c := by
  obtain ⟨digit, below, rfl⟩ := (mem_take_iff_exists_digitChar readable).1 inside
  rw [digitValue_digitChar (Nat.lt_of_lt_of_le below readable)]
  exact ⟨below, rfl⟩

/-- Reading digit after digit gives the number that the digits denote. -/
theorem value_eq_ofDigits (radix : ℕ) (digits : List Char) :
    value radix digits = Nat.ofDigits radix (digits.reverse.map digitValue) := by
  induction digits using List.reverseRecOn with
  | nil => rfl
  | append_singleton digits digit ih =>
    have last : value radix [digit] = digitValue digit := by simp [value]
    rw [value_append, ih, last, List.reverse_append, List.map_append, List.reverse_singleton,
      List.map_singleton, List.singleton_append, Nat.ofDigits_cons, List.length_singleton,
      Nat.pow_one, Nat.mul_comm, Nat.add_comm]

theorem value_zero (radix : ℕ) : value radix ['0'] = 0 := by
  simp [value, digitValue]

/-! ## One canonical numeral for each number -/

/-- The characters of a canonical numeral are those of its digits. -/
theorem IsNumeral.map_digitChar (numeral : IsNumeral radix number digits)
    (readable : radix ≤ 16) : (digits.map digitValue).map Nat.digitChar = digits := by
  rw [List.map_map]
  refine .trans (List.map_congr_left fun c inside => ?_) (List.map_id digits)
  exact (digitValue_lt_and_digitChar_eq readable (numeral.lower c inside)).2

/-- The digits are those that division by the radix gives, unless there is only a zero. -/
theorem IsNumeral.digits_eq (numeral : IsNumeral radix number digits) (large : 2 ≤ radix)
    (readable : radix ≤ 16) (significant : digits ≠ ['0']) :
    Nat.digits radix number = digits.reverse.map digitValue := by
  rw [← numeral.denotes, value_eq_ofDigits]
  apply Nat.digits_ofDigits radix large
  · intro value listed
    obtain ⟨c, inside, rfl⟩ := List.mem_map.1 listed
    exact (digitValue_lt_and_digitChar_eq readable (numeral.lower c (List.mem_reverse.1 inside))).1
  · intro nonempty
    rw [List.getLast_map, List.getLast_reverse]
    intro zero
    obtain ⟨-, leading⟩ := digitValue_lt_and_digitChar_eq readable
      (numeral.lower _ (List.head_mem numeral.nonempty))
    rw [zero] at leading
    apply significant
    apply numeral.no_zero_in_front
    rw [List.head?_eq_some_head numeral.nonempty, ← leading]
    rfl

/-- Only zero is written as a zero alone. -/
theorem IsNumeral.ne_zero (numeral : IsNumeral radix number digits) (nonzero : number ≠ 0) :
    digits ≠ ['0'] := by
  rintro rfl
  exact nonzero (numeral.denotes.symm.trans (value_zero radix))

theorem IsNumeral.eq_zero (numeral : IsNumeral radix 0 digits) (large : 2 ≤ radix)
    (readable : radix ≤ 16) : digits = ['0'] := by
  by_contra significant
  have no_digits := numeral.digits_eq large readable significant
  rw [Nat.digits_zero, eq_comm, List.map_eq_nil_iff, List.reverse_eq_nil_iff] at no_digits
  exact numeral.nonempty no_digits

theorem IsNumeral.unique {other : List Char} (numeral : IsNumeral radix number digits)
    (numeral' : IsNumeral radix number other) (large : 2 ≤ radix) (readable : radix ≤ 16) :
    digits = other := by
  by_cases zero : number = 0
  · subst zero
    rw [numeral.eq_zero large readable, numeral'.eq_zero large readable]
  · have values := (numeral.digits_eq large readable (numeral.ne_zero zero)).symm.trans
      (numeral'.digits_eq large readable (numeral'.ne_zero zero))
    rw [List.map_reverse, List.map_reverse, List.reverse_inj] at values
    rw [← numeral.map_digitChar readable, values, numeral'.map_digitChar readable]

theorem isNumeral_ofNat (large : 2 ≤ radix) (readable : radix ≤ 16) (number : ℕ) :
    IsNumeral radix number (ofNat radix number) where
  nonempty := ofNat_ne_nil radix number
  lower _ inside := (mem_take_iff_exists_digitChar readable).2
    (exists_digit_of_mem_ofNat (by omega) inside)
  no_zero_in_front := eq_zero_of_head_withoutLeadingZeros
  denotes := value_ofNat large readable number

theorem isNumeral_iff (large : 2 ≤ radix) (readable : radix ≤ 16) :
    IsNumeral radix number digits ↔ digits = ofNat radix number := by
  apply Iff.intro
  · intro numeral
    exact numeral.unique (isNumeral_ofNat large readable number) large readable
  · rintro rfl
    exact isNumeral_ofNat large readable number

/-- The numeral of an integer is canonical, and the only one that is. -/
theorem isIntegerNumeral_iff (large : 2 ≤ radix) (readable : radix ≤ 16) {integer : ℤ}
    {text : List Char} :
    IsIntegerNumeral radix integer text ↔ text = ofInt radix integer := by
  apply Iff.intro
  · intro numeral
    cases numeral with
    | @nonnegative number digits numeral =>
      rw [ofInt, if_neg (Int.not_lt.2 (Int.natCast_nonneg number)), Int.natAbs_natCast]
      exact (isNumeral_iff large readable).1 numeral
    | @negative number digits positive numeral =>
      rw [ofInt, if_pos (by omega), Int.natAbs_neg, Int.natAbs_natCast,
        (isNumeral_iff large readable).1 numeral]
  · rintro rfl
    have numeral := isNumeral_ofNat large readable integer.natAbs
    rw [ofInt]
    split
    next negative =>
      have written := IsIntegerNumeral.negative (by omega) numeral
      rwa [show -(integer.natAbs : ℤ) = integer by omega] at written
    next nonnegative =>
      have written := IsIntegerNumeral.nonnegative numeral
      rwa [Int.natAbs_of_nonneg (Int.not_lt.1 nonnegative)] at written

end PolicyBuiltins.Numeral
