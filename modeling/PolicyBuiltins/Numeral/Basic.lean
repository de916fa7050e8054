/-
# Numerals in a radix

A numeral writes a natural number in a radix from two to sixteen, the most
significant digit first and letters in lower case.  `ofNat` writes it without a
needless zero in front, and `value` reads a run of digits back.

Numbers of a hundred thousand digits occur, so the digits are found by halving:
a block of `2 ^ (level + 1)` digits is two blocks of `2 ^ level`, separated by
one division.  The division runs on numbers of equal length, which keeps the
whole conversion close to the cost of a few multiplications.
-/

namespace PolicyBuiltins.Numeral

/-- The lowest `2 ^ level` digits of `number`, zeros included, in front of
`rest`. -/
def lowDigits (radix : Nat) : Nat → Nat → List Char → List Char
  | 0, number, rest => Nat.digitChar (number % radix) :: rest
  | level + 1, number, rest =>
    let block := Nat.pow radix (Nat.pow 2 level)
    lowDigits radix level (number / block)
      (lowDigits radix level (number % block) rest)

/-- A level at which `lowDigits` leaves nothing of `number` out: a digit of the
radix takes at least `radix.log2` bits. -/
def sufficientLevel (radix number : Nat) : Nat :=
  (number.log2 / radix.log2).log2 + 1

/-- Digits without the zeros in front; a number that is zero keeps one. -/
def withoutLeadingZeros (digits : List Char) : List Char :=
  match digits.dropWhile (· == '0') with
  | [] => ['0']
  | significant => significant

/-- The numeral of a natural number. -/
def ofNat (radix number : Nat) : List Char :=
  withoutLeadingZeros (lowDigits radix (sufficientLevel radix number) number [])

/-- The numeral of an integer: a minus in front of a negative one. -/
def ofInt (radix : Nat) (number : Int) : List Char :=
  if number < 0 then '-' :: ofNat radix number.natAbs else ofNat radix number.natAbs

/-- The value of a digit, letters of either case counting from ten. -/
def digitValue (c : Char) : Nat :=
  if c.isDigit then c.toNat - '0'.toNat
  else if 'a' ≤ c ∧ c ≤ 'f' then c.toNat - 'a'.toNat + 10
  else if 'A' ≤ c ∧ c ≤ 'F' then c.toNat - 'A'.toNat + 10
  else 0

/-- The number that a run of digits denotes. -/
def value (radix : Nat) (digits : List Char) : Nat :=
  digits.foldl (fun total digit => total * radix + digitValue digit) 0

/-- Digits brought to a length by zeros in front. -/
def padded (length : Nat) (digits : List Char) : List Char :=
  List.replicate (length - digits.length) '0' ++ digits

theorem lowDigits_eq_append (radix level number : Nat) (rest : List Char) :
    lowDigits radix level number rest = lowDigits radix level number [] ++ rest := by
  induction level generalizing number rest with
  | zero => simp [lowDigits]
  | succ level ih =>
    simp only [lowDigits]
    rw [ih _ (lowDigits radix level _ rest), ih _ rest,
      ih _ (lowDigits radix level _ []), List.append_assoc]

/-- Reading a digit back gives what was written. -/
theorem digitValue_digitChar {digit : Nat} (small : digit < 16) :
    digitValue (Nat.digitChar digit) = digit := by
  have every : ∀ digit : Fin 16, digitValue (Nat.digitChar digit) = digit := by decide
  exact every ⟨digit, small⟩

theorem withoutLeadingZeros_ne_nil (digits : List Char) :
    withoutLeadingZeros digits ≠ [] := by
  unfold withoutLeadingZeros
  split
  next => simp
  next significant => exact significant

theorem ofNat_ne_nil (radix number : Nat) : ofNat radix number ≠ [] :=
  withoutLeadingZeros_ne_nil _

/-- A numeral that begins with a zero is that zero alone. -/
theorem eq_zero_of_head_withoutLeadingZeros {digits : List Char}
    (zero : (withoutLeadingZeros digits).head? = some '0') :
    withoutLeadingZeros digits = ['0'] := by
  unfold withoutLeadingZeros at zero ⊢
  split
  next => rfl
  next significant =>
    have stopped := List.head?_dropWhile_not (· == '0') digits
    simp_all

/-- The digits of a decimal block are decimal digits. -/
theorem isDigit_of_mem_lowDigits {level number : Nat} {c : Char}
    (member : c ∈ lowDigits 10 level number []) : c.isDigit := by
  induction level generalizing number with
  | zero =>
    have every : ∀ digit : Fin 10, (Nat.digitChar digit).isDigit := by decide
    simp only [lowDigits, List.mem_singleton] at member
    exact member ▸ every ⟨number % 10, Nat.mod_lt _ (by omega)⟩
  | succ level ih =>
    simp only [lowDigits] at member
    rw [lowDigits_eq_append, List.mem_append] at member
    exact member.elim ih ih

/-- A decimal numeral has decimal digits only. -/
theorem isDigit_of_mem_ofNat {number : Nat} {c : Char} (member : c ∈ ofNat 10 number) :
    c.isDigit := by
  unfold ofNat withoutLeadingZeros at member
  split at member
  next => simp_all
  next =>
    exact isDigit_of_mem_lowDigits
      ((List.dropWhile_suffix (· == '0')).subset member)

/-- Zeros in front of decimal digits are decimal digits. -/
theorem isDigit_of_mem_padded {length : Nat} {digits : List Char}
    (decimal : ∀ c ∈ digits, c.isDigit) {c : Char} (member : c ∈ padded length digits) :
    c.isDigit := by
  rcases List.mem_append.1 member with zero | digit
  · rw [List.eq_of_mem_replicate zero]
    rfl
  · exact decimal c digit

end PolicyBuiltins.Numeral
