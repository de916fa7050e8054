/-
# Integers in directives

An integer verb writes a sign, the mark of its base under the sharp flag, and digits.  Spaces
stand only outside these parts, and zeros only in front of the digits, whatever the flags, the
width and the precision are.  The digits therefore denote the magnitude of the integer.
-/

import Mathlib.Data.List.Basic
import PolicyBuiltins.Proofs.Template.DirectiveText
import PolicyBuiltins.Proofs.Template.SingleDirective

namespace PolicyBuiltins.Template

/-! ## The verbs -/

/-- The integer verbs: the base of each, its mark and its digits. -/
inductive IntegerVerb : (verb : Char) → (base : ℕ) → (mark alphabet : String) → Prop
  | binary : IntegerVerb 'b' 2 "0b" "01"
  | octal : IntegerVerb 'o' 8 "0" "01234567"
  | decimal : IntegerVerb 'd' 10 "" "0123456789"
  | hexadecimal : IntegerVerb 'x' 16 "0x" "0123456789abcdef"
  | hexadecimalUpper : IntegerVerb 'X' 16 "0X" "0123456789ABCDEF"

/-- A digit in the case of a radix. -/
def Radix.letter : Radix → Char → Char
  | .hexadecimal true => Char.toUpper
  | _ => id

theorem Radix.inCase_eq_map (radix : Radix) (digits : List Char) :
    radix.inCase digits = digits.map radix.letter := by
  rcases radix with _ | _ | _ | (_ | _) <;> simp [inCase, letter]

/-- A radix with the base, the mark and the digits of a verb. -/
structure Radix.IsNamed (radix : Radix) (base : ℕ) (mark alphabet : String) : Prop where
  base_eq : radix.base = base
  mark_eq : radix.mark = mark.toList
  base_ge : 2 ≤ base
  base_le : base ≤ 16
  letter_mem : ∀ digit < base, radix.letter (Nat.digitChar digit) ∈ alphabet.toList
  digitValue_letter : ∀ digit < base,
    Numeral.digitValue (radix.letter (Nat.digitChar digit)) = digit
  zero_mem : '0' ∈ alphabet.toList
  spaceless : ' ' ∉ mark.toList ++ alphabet.toList

section
variable {verb : Char} {base : ℕ} {mark alphabet : String}

theorem IntegerVerb.exists_radix (named : IntegerVerb verb base mark alphabet) :
    ∃ radix, Verb.ofChar? verb = some (.integer radix) ∧ radix.IsNamed base mark alphabet := by
  cases named with
  | binary => exact ⟨.binary, rfl, by constructor <;> decide⟩
  | octal => exact ⟨.octal, rfl, by constructor <;> decide⟩
  | decimal => exact ⟨.decimal, rfl, by constructor <;> decide⟩
  | hexadecimal => exact ⟨.hexadecimal false, rfl, by constructor <;> decide⟩
  | hexadecimalUpper => exact ⟨.hexadecimal true, rfl, by constructor <;> decide⟩

/-- Only the verb in upper case has a radix with other letters. -/
theorem IntegerVerb.radix_ne (named : IntegerVerb verb base mark alphabet) (lower : verb ≠ 'X')
    {radix : Radix} (verb_eq : Verb.ofChar? verb = some (.integer radix)) :
    radix ≠ .hexadecimal true := by
  rintro rfl
  cases named with
  | hexadecimalUpper => exact lower rfl
  | _ => cases verb_eq

/-! ## Digits -/

variable {radix : Radix} (named : radix.IsNamed base mark alphabet)
include named

/-- Digits in the case of a radix are digits of its verb. -/
theorem Radix.IsNamed.mem_inCase {number : ℕ} {c : Char}
    (member : c ∈ radix.inCase (Numeral.ofNat base number)) : c ∈ alphabet.toList := by
  rw [inCase_eq_map] at member
  obtain ⟨digit, inside, rfl⟩ := List.mem_map.1 member
  have positive : 0 < base := lt_of_lt_of_le (by decide) named.base_ge
  obtain ⟨index, small, rfl⟩ := Numeral.exists_digit_of_mem_ofNat positive inside
  exact named.letter_mem index small

/-- The case of digits does not change what they denote. -/
theorem Radix.IsNamed.value_inCase (number : ℕ) :
    Numeral.value base (radix.inCase (Numeral.ofNat base number)) = number := by
  have positive : 0 < base := lt_of_lt_of_le (by decide) named.base_ge
  have same_value : ∀ c ∈ Numeral.ofNat base number,
      Numeral.digitValue (radix.letter c) = Numeral.digitValue c := by
    intro c member
    obtain ⟨index, small, rfl⟩ := Numeral.exists_digit_of_mem_ofNat positive member
    rw [named.digitValue_letter index small,
      Numeral.digitValue_digitChar (lt_of_lt_of_le small named.base_le)]
  rw [inCase_eq_map, Numeral.value, List.foldl_map]
  refine (List.foldl_ext _ _ _ fun total c member => ?_).trans
    (Numeral.value_ofNat named.base_ge named.base_le number)
  rw [same_value c member]

/-- Between spaces, an integer is a sign, a mark, and digits that denote its magnitude. -/
theorem Radix.IsNamed.exists_digits (spec : Spec) (number : ℤ) :
    ∃ digits, Text.trim (· == ' ') (integerText spec radix number) =
        signOf (number < 0) { spec.flags with space := false } ++
          ((if spec.flags.sharp then mark.toList else []) ++ digits) ∧
      max 1 (spec.precision.getD 0) ≤ digits.length ∧
      (∀ c ∈ digits, c ∈ alphabet.toList) ∧ Numeral.value base digits = number.natAbs := by
  obtain ⟨before, zeros, after, laid_out, blank⟩ :=
    exists_layOut_signOf spec spec.precision.isNone (number < 0) (radix.lead spec.flags)
      (Numeral.padded (spec.precision.getD 0)
        (radix.inCase (Numeral.ofNat radix.base number.natAbs)))
  rw [Radix.lead, named.base_eq, named.mark_eq] at laid_out
  let numeral := radix.inCase (Numeral.ofNat base number.natAbs)
  let digits := List.replicate zeros '0' ++ Numeral.padded (spec.precision.getD 0) numeral
  have digit_mem : ∀ c ∈ digits, c ∈ alphabet.toList := by
    intro c member
    simp only [digits, Numeral.padded, List.mem_append, List.mem_replicate] at member
    rcases member with ⟨-, rfl⟩ | ⟨-, rfl⟩ | inside
    · exact named.zero_mem
    · exact named.zero_mem
    · exact named.mem_inCase inside
  have spaceless := named.spaceless
  rw [List.mem_append, not_or] at spaceless
  refine ⟨digits, ?_, ?_, digit_mem, ?_⟩
  · rw [integerText, Radix.lead, named.base_eq, named.mark_eq, laid_out]
    refine trim_of_no_space blank fun c member => ?_
    rintro rfl
    rcases List.mem_append.1 member with in_sign | in_rest
    · exact absurd ((signText_signOf _ _).not_isWhiteSpace in_sign) (by decide)
    · rcases List.mem_append.1 in_rest with in_mark | in_digits
      · split at in_mark
        · exact spaceless.1 in_mark
        · exact List.not_mem_nil in_mark
      · exact spaceless.2 (digit_mem ' ' in_digits)
  · have numeral_pos : 1 ≤ numeral.length := by
      simp only [numeral, Radix.inCase_eq_map, List.length_map]
      exact List.length_pos_iff.2 (Numeral.ofNat_ne_nil base _)
    simp only [digits, Numeral.padded, List.length_append, List.length_replicate]
    omega
  · simp only [digits, Numeral.value_replicate_zero_append, Numeral.value_padded]
    exact named.value_inCase number.natAbs

end

/-! ## Directives -/

/-- A directive with an integer verb writes an integer in the verb's radix. -/
theorem format_integer (rule : MismatchRule) {template : List Char} {spec : Spec}
    {verb : Char} (written : DirectiveText verb spec template) (allowed : spec.Allowed)
    {radix : Radix} (verb_eq : Verb.ofChar? verb = some (.integer radix)) {number : Decimal}
    (integral : number.isInteger = true) :
    format rule template [.number number] = .ok (integerText spec radix number.truncate) := by
  obtain ⟨ends, not_percent⟩ := Verb.endsSpec_of_ofChar? verb_eq
  rw [format_directive allowed (written.pieces_eq ends) not_percent]
  simp only [renderArgument, verb_eq, Verb.render, limited_of_allowed allowed, if_pos integral]

/-- Without flags, width and precision an integer is written as its numeral, unless the verb
wants other letters. -/
theorem integerText_plain {radix : Radix} (lower : radix ≠ .hexadecimal true) (number : ℤ) :
    integerText { flags := Flags.ofChars [], width := none, precision := none } radix number =
      Numeral.ofInt radix.base number := by
  have same_case (digits : List Char) : radix.inCase digits = digits := by
    unfold Radix.inCase
    split
    next => exact absurd rfl lower
    next => rfl
  simp only [integerText, layOut, Numeral.padded, same_case, Numeral.ofInt]
  by_cases negative : number < 0 <;> simp [signOf, Radix.lead, Flags.ofChars, negative]

end PolicyBuiltins.Template
