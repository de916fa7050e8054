/-
# Integers out of numbers

A number is made an integer without any loss but that of its fractional part: it is rounded
toward zero, it is a signed 64-bit word exactly if its rational is one, and an operand that
has to be an integer is refused for everything else.  `format_int` therefore writes the
canonical numeral of the number rounded toward zero, and takes its base from every number
that is equal to one of its bases, whatever text this number was read from.
-/

import PolicyBuiltins.Decimal.Reading
import PolicyBuiltins.Proofs.Decimal.Truncation
import PolicyBuiltins.Proofs.Numeral.Canonical
import PolicyBuiltins.Proofs.Operand.Demands
import PolicyBuiltins.Proofs.Strings.IntegerFormatting

namespace PolicyBuiltins.Strings

open Numeral (IsIntegerNumeral)

/-- Numbers are made integers exactly. -/
theorem integer_conversions_are_exact :
    (∀ number : Decimal,
      number.truncate = if number.toRat < 0 then ⌈number.toRat⌉ else ⌊number.toRat⌋) ∧
    (∀ (number : Decimal) (integer : ℤ), number.toWord? = some integer ↔
      number.toRat = integer ∧ -2 ^ 63 ≤ integer ∧ integer < 2 ^ 63) ∧
    (∀ (value : Value) (position : ℕ) (integer : ℤ),
      Operand.integer value position = .ok integer ↔
        ∃ number, value = .number number ∧ number.toWord? = some integer) ∧
    (∀ (value : Value) (position : ℕ) (failure : Failure),
      Operand.integer value position = .error failure ↔
        (∀ number, value = .number number → number.toWord? = none) ∧
          failure = { cause := .operandType position value.kind [.integer] }) ∧
    ∃ draft, Draft.standard? = .ok draft ∧
      ∀ (settings : Settings) (number base : Decimal) (radix : ℕ), radix ∈ [2, 8, 10, 16] →
        base.toRat = radix → ∃ text,
          (draft.withSettings settings).seal.call "format_int" [.number number, .number base] =
            .defined (.ofChars text) ∧
          ∀ other, IsIntegerNumeral radix number.truncate other ↔ other = text := by
  refine ⟨Decimal.truncate_eq_floor_or_ceil, fun number integer =>
    Decimal.toWord?_eq_some_iff_toRat, fun value position integer =>
    Operand.integer_eq_ok_iff_exists_number, fun value position failure =>
    Operand.integer_eq_error_iff, _, Draft.standard?_eq_ok, ?_⟩
  intro settings number base radix listed base_eq
  obtain rfl : base = .ofInt radix := Decimal.toRat_eq_intCast_iff.1 base_eq
  refine ⟨_, call_formatInt settings number listed, fun other => ?_⟩
  have bounds : ∀ radix ∈ formatBases, 2 ≤ radix ∧ radix ≤ 16 := by decide
  exact Numeral.isIntegerNumeral_iff (bounds radix listed).1 (bounds radix listed).2

/-- A fraction below zero, and a base with an exponent. -/
theorem integer_conversions_are_exact_below_zero :
    ∃ number base : Decimal, Decimal.ofString "-255.5" = .ok number ∧
      Decimal.ofString "1.6e1" = .ok base ∧ 16 ∈ [2, 8, 10, 16] ∧ base.toRat = 16 ∧
      number.truncate = -255 ∧ IsIntegerNumeral 16 (-255) "-ff".toList ∧
      ∃ draft, Draft.standard? = .ok draft ∧
        (draft.withSettings .strict).seal.call "format_int" [.number number, .number base] =
          .defined (.string "-ff") := by
  let number : Decimal := ⟨-2555, 1, by decide, by decide⟩
  let base : Decimal := ⟨16, 0, by decide, by decide⟩
  have listed : 16 ∈ [2, 8, 10, 16] := by decide
  have base_eq : base.toRat = 16 := by norm_num [Decimal.toRat, base]
  have truncated : number.truncate = -255 := by decide
  have numeral : IsIntegerNumeral 16 (-255) "-ff".toList :=
    @IsIntegerNumeral.negative 16 255 ['f', 'f'] (by decide)
      ⟨by decide, by simp, by decide, by decide⟩
  obtain ⟨-, -, -, -, draft, registered, formats⟩ := integer_conversions_are_exact
  obtain ⟨text, call_eq, numeral_iff⟩ := formats .strict number base 16 listed base_eq
  rw [truncated] at numeral_iff
  obtain rfl : "-ff".toList = text := (numeral_iff _).1 numeral
  exact ⟨number, base, by decide +kernel, by decide +kernel, listed, base_eq, truncated, numeral,
    draft, registered, call_eq⟩

end PolicyBuiltins.Strings
