/-
# Numerals denote their numbers

Reading a numeral gives the number that it was written for, in every radix whose
digits can be read.  The proof follows the halving of blocks: a block of digits
denotes the number up to multiples of the block's size, and the first block is
large enough to leave nothing out.
-/

import Mathlib.Algebra.Order.Ring.Nat
import PolicyBuiltins.Numeral.Basic

namespace PolicyBuiltins.Numeral

theorem length_lowDigits (radix level number : Nat) (rest : List Char) :
    (lowDigits radix level number rest).length = 2 ^ level + rest.length := by
  induction level generalizing number rest with
  | zero => simp [lowDigits]; omega
  | succ level ih => simp [lowDigits, ih, Nat.pow_succ]; omega

/-- Two runs of digits side by side: the first counts in units of the second. -/
theorem value_append (radix : Nat) (high low : List Char) :
    value radix (high ++ low) = value radix high * radix ^ low.length + value radix low := by
  suffices shifted : ∀ total,
      low.foldl (fun total digit => total * radix + digitValue digit) total =
        total * radix ^ low.length + value radix low by
    simp only [value, List.foldl_append]
    exact shifted _
  induction low with
  | nil => intro total; simp [value]
  | cons digit low ih =>
    intro total
    simp only [List.foldl_cons, List.length_cons, value]
    rw [ih, ih (0 * radix + _), Nat.pow_succ]
    grind

/-- A block of digits holds the number up to multiples of the block's size. -/
theorem value_lowDigits {radix : Nat} (positive : 0 < radix) (readable : radix ≤ 16)
    (level number : Nat) :
    value radix (lowDigits radix level number []) = number % radix ^ 2 ^ level := by
  induction level generalizing number with
  | zero =>
    have small : number % radix < 16 := Nat.lt_of_lt_of_le (Nat.mod_lt _ positive) readable
    simp [lowDigits, value, digitValue_digitChar small]
  | succ level ih =>
    simp only [lowDigits, Nat.pow_eq]
    rw [lowDigits_eq_append, value_append, ih, ih, length_lowDigits, List.length_nil,
      Nat.add_zero, Nat.mod_mod, Nat.pow_succ, Nat.mul_two, Nat.pow_add, Nat.mod_mul]
    grind

/-- Zeros in front do not change the value of digits. -/
theorem value_dropWhile_zero (radix : Nat) (digits : List Char) :
    value radix (digits.dropWhile (· == '0')) = value radix digits := by
  induction digits with
  | nil => rfl
  | cons digit digits ih =>
    rw [List.dropWhile_cons]
    split
    next zero =>
      have zero : digit = '0' := by simpa using zero
      rw [ih, show digit :: digits = [digit] ++ digits from rfl, value_append, zero]
      simp [value, digitValue]
    next => rfl

theorem value_withoutLeadingZeros (radix : Nat) (digits : List Char) :
    value radix (withoutLeadingZeros digits) = value radix digits := by
  rw [← value_dropWhile_zero radix digits]
  unfold withoutLeadingZeros
  split
  next none_left => simp [none_left, value, digitValue]
  next => rfl

/-- The level that a numeral is cut at leaves no digit out. -/
theorem lt_pow_sufficientLevel {radix : Nat} (large : 2 ≤ radix) (number : Nat) :
    number < radix ^ 2 ^ sufficientLevel radix number := by
  have bits_pos : 0 < radix.log2 := (Nat.le_log2 (by omega)).2 large
  have radix_ge : 2 ^ radix.log2 ≤ radix := Nat.log2_self_le (by omega)
  calc number
      < 2 ^ (number.log2 + 1) := Nat.lt_log2_self
    _ ≤ 2 ^ (radix.log2 * (number.log2 / radix.log2 + 1)) := by
      apply Nat.pow_le_pow_right (by omega)
      have := Nat.lt_mul_div_succ number.log2 bits_pos
      omega
    _ = (2 ^ radix.log2) ^ (number.log2 / radix.log2 + 1) := by rw [Nat.pow_mul]
    _ ≤ radix ^ (number.log2 / radix.log2 + 1) := Nat.pow_le_pow_left radix_ge _
    _ ≤ radix ^ 2 ^ sufficientLevel radix number := by
      apply Nat.pow_le_pow_right (by omega)
      exact Nat.lt_log2_self

/-- A numeral denotes the number that it was written for. -/
theorem value_ofNat {radix : Nat} (large : 2 ≤ radix) (readable : radix ≤ 16)
    (number : Nat) : value radix (ofNat radix number) = number := by
  rw [ofNat, value_withoutLeadingZeros, value_lowDigits (by omega) readable,
    Nat.mod_eq_of_lt (lt_pow_sufficientLevel large number)]

/-- Zeros put in front do not change the value of digits. -/
theorem value_replicate_zero_append (radix count : Nat) (digits : List Char) :
    value radix (List.replicate count '0' ++ digits) = value radix digits := by
  rw [← value_dropWhile_zero radix digits, ← value_dropWhile_zero radix (_ ++ digits),
    List.dropWhile_append_of_pos]
  intro zero member
  rw [List.eq_of_mem_replicate member]
  rfl

/-- Zeros in front, up to any length, do not change the value of digits. -/
theorem value_padded (radix length : Nat) (digits : List Char) :
    value radix (padded length digits) = value radix digits :=
  value_replicate_zero_append radix _ digits

/-- The digits of a block are characters of numbers below the radix. -/
theorem exists_digit_of_mem_lowDigits {radix level number : Nat} (positive : 0 < radix)
    {c : Char} (member : c ∈ lowDigits radix level number []) :
    ∃ digit < radix, c = Nat.digitChar digit := by
  induction level generalizing number with
  | zero =>
    rw [lowDigits, List.mem_singleton] at member
    exact ⟨number % radix, Nat.mod_lt _ positive, member⟩
  | succ level ih =>
    simp only [lowDigits] at member
    rw [lowDigits_eq_append, List.mem_append] at member
    exact member.elim ih ih

/-- The digits of a numeral are characters of numbers below the radix. -/
theorem exists_digit_of_mem_ofNat {radix number : Nat} (positive : 0 < radix) {c : Char}
    (member : c ∈ ofNat radix number) : ∃ digit < radix, c = Nat.digitChar digit := by
  unfold ofNat withoutLeadingZeros at member
  split at member
  next =>
    rw [List.mem_singleton] at member
    exact ⟨0, positive, member⟩
  next =>
    exact exists_digit_of_mem_lowDigits positive
      ((List.dropWhile_suffix (· == '0')).subset member)

end PolicyBuiltins.Numeral
