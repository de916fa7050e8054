/-
# Rounding a quotient

A quotient of natural numbers is rounded to the nearest natural number; one that
lies half way goes to the even neighbour.  Both the fixed-point text of a decimal
and the nearest binary64 number are such quotients.
-/

namespace PolicyBuiltins

/-- The natural number nearest to `numerator / denominator`, the even one when
two are equally near. -/
def roundHalfEven (numerator denominator : Nat) : Nat :=
  let quotient := numerator / denominator
  let remainder := numerator % denominator
  if denominator < 2 * remainder then quotient + 1
  else if 2 * remainder = denominator ∧ quotient % 2 = 1 then quotient + 1
  else quotient

/-- The rounded quotient is above the exact one by half a unit at most. -/
theorem two_mul_roundHalfEven_mul_le (numerator denominator : Nat) :
    2 * (roundHalfEven numerator denominator * denominator) ≤ 2 * numerator + denominator := by
  have whole := Nat.div_add_mod' numerator denominator
  have step := Nat.add_mul (numerator / denominator) 1 denominator
  simp only [roundHalfEven]
  split
  · omega
  · split <;> omega

/-- The rounded quotient is below the exact one by half a unit at most. -/
theorem two_mul_le_roundHalfEven_mul {numerator denominator : Nat}
    (positive : 0 < denominator) :
    2 * numerator ≤ 2 * (roundHalfEven numerator denominator * denominator) + denominator := by
  have whole := Nat.div_add_mod' numerator denominator
  have small := Nat.mod_lt numerator positive
  have step := Nat.add_mul (numerator / denominator) 1 denominator
  simp only [roundHalfEven]
  split
  · omega
  · split <;> omega

/-- A quotient half way between two natural numbers goes to the even one. -/
theorem roundHalfEven_even_of_tie {numerator denominator : Nat}
    (tie : 2 * (numerator % denominator) = denominator) :
    roundHalfEven numerator denominator % 2 = 0 := by
  simp only [roundHalfEven]
  rw [if_neg (by omega)]
  split <;> omega

/-- A quotient whose rounding is half a unit away goes to an even number. -/
theorem roundHalfEven_even_of_half {numerator denominator : Nat} (positive : 0 < denominator)
    (half : 2 * numerator = 2 * (roundHalfEven numerator denominator * denominator) + denominator ∨
      2 * numerator + denominator = 2 * (roundHalfEven numerator denominator * denominator)) :
    roundHalfEven numerator denominator % 2 = 0 := by
  apply roundHalfEven_even_of_tie
  have whole := Nat.div_add_mod' numerator denominator
  have small := Nat.mod_lt numerator positive
  have step := Nat.add_mul (numerator / denominator) 1 denominator
  simp only [roundHalfEven] at half
  split at half
  · omega
  · split at half <;> omega

/-- A natural number that the quotient reaches is reached by the rounded quotient. -/
theorem le_roundHalfEven {count numerator denominator : Nat} (positive : 0 < denominator)
    (reached : count * denominator ≤ numerator) : count ≤ roundHalfEven numerator denominator := by
  have near := @two_mul_le_roundHalfEven_mul numerator _ positive
  apply Nat.le_of_not_lt
  intro missed
  have step := Nat.mul_le_mul_right denominator (Nat.succ_le_of_lt missed)
  rw [Nat.succ_mul] at step
  omega

/-- A natural number that the quotient does not exceed is not exceeded by the rounded
quotient. -/
theorem roundHalfEven_le {count numerator denominator : Nat} (positive : 0 < denominator)
    (bounded : numerator ≤ count * denominator) :
    roundHalfEven numerator denominator ≤ count := by
  have near := two_mul_roundHalfEven_mul_le numerator denominator
  apply Nat.le_of_not_lt
  intro exceeded
  have step := Nat.mul_le_mul_right denominator (Nat.succ_le_of_lt exceeded)
  rw [Nat.succ_mul] at step
  omega

/-- An even number is reached from half a unit below it on. -/
theorem even_le_roundHalfEven_iff {count numerator denominator : Nat}
    (positive : 0 < denominator) (even : count % 2 = 0) :
    count ≤ roundHalfEven numerator denominator ↔
      2 * (count * denominator) ≤ 2 * numerator + denominator := by
  constructor
  · intro reached
    have near := two_mul_roundHalfEven_mul_le numerator denominator
    have step := Nat.mul_le_mul_right denominator reached
    omega
  · intro half
    apply Nat.le_of_not_lt
    intro missed
    -- Only a tie leaves room for both bounds, and a tie goes to an even number.
    have near := @two_mul_le_roundHalfEven_mul numerator _ positive
    have step := Nat.mul_le_mul_right denominator (Nat.succ_le_of_lt missed)
    rw [Nat.succ_mul] at step
    have remainder : 2 * (numerator % denominator) = denominator := by
      obtain ⟨rest, rest_eq⟩ := Nat.exists_eq_add_of_le
        (show roundHalfEven numerator denominator * denominator ≤ numerator by omega)
      rw [show numerator % denominator = rest by
        rw [rest_eq, Nat.mul_comm, Nat.mul_add_mod, Nat.mod_eq_of_lt (by omega)]]
      omega
    have rounded_even := roundHalfEven_even_of_tie remainder
    have next := Nat.le_of_mul_le_mul_right
      (show count * denominator ≤ (roundHalfEven numerator denominator + 1) * denominator by
        rw [Nat.succ_mul]; omega) positive
    omega

end PolicyBuiltins
