/-
# The general form loses no digit

The general form starts from scientific notation of a magnitude, by the fewest digits that
read back or by those of a precision, and lays its digits out anew.  The text that it gives
denotes the number of the scientific notation, in plain notation for numbers of moderate size
and with an exponent for all others.

Scientific notation is first printed as a text, in which the digits and the exponent have to be
found again, and the digits are then cut into slices.  Nothing goes wrong on this way: the text
is read as it was meant, and every slice lies within the digits.
-/

import PolicyBuiltins.Proofs.Template.PlacedDigits

namespace PolicyBuiltins.Binary64

/-- A finite bit pattern has a mantissa and an exponent within the bounds. -/
theorem isFinite_of_ofBits? {bits : UInt64} {mantissa : ℕ} {exponent : ℤ}
    (finite : Magnitude.ofBits? bits = some (.finite mantissa exponent)) :
    IsFinite mantissa exponent := by
  have fraction_lt : bits.toNat % hiddenBit < hiddenBit := Nat.mod_lt _ (by decide)
  have biased_lt : bits.toNat / hiddenBit % 2048 < 2048 := Nat.mod_lt _ (by decide)
  simp only [Magnitude.ofBits?] at finite
  split at finite
  next => split at finite <;> cases finite
  next ordinary =>
    rw [hiddenBit] at fraction_lt
    split at finite
    next =>
      cases finite
      constructor <;> simp only [minExponent, hiddenBit] <;> omega
    next =>
      cases finite
      constructor <;> simp only [minExponent, hiddenBit] at * <;> omega

end PolicyBuiltins.Binary64

namespace PolicyBuiltins.Template

open Binary64 (Magnitude Scientific)
open Decimal (CanonicalText DigitText ExponentText)

/-! ## Scientific notation as a text -/

/-- Scientific notation as it is printed, with the point behind the first digit. -/
def scientificText (scientific : Scientific) : List Char :=
  pointedMantissa scientific.digits ++ 'e' :: Numeral.ofInt 10 scientific.exponent

/-- The digits and the exponent found in scientific notation.  An exponent that is missing or
too large for a word is taken for zero. -/
def PlacedDigits.ofText (text : List Char) : PlacedDigits :=
  let (mantissa, scaled) := Decimal.splitAtFirst (· == 'e') text
  let exponent := (scaled.bind Decimal.exponentOf?).filter fun exponent => decide (IsWord exponent)
  ofScientific { digits := mantissa.filter Char.isDigit, exponent := exponent.getD 0 }

theorem exponentOf?_ofInt (exponent : ℤ) :
    Decimal.exponentOf? (Numeral.ofInt 10 exponent) = some exponent := by
  have decimal := Decimal.digitText_ofNat exponent.natAbs
  have value_eq : Decimal.decimalValue (Numeral.ofNat 10 exponent.natAbs) = exponent.natAbs := by
    rw [← Decimal.value_eq_decimalValue, Numeral.value_ofNat (by decide) (by decide)]
  rw [Decimal.exponentOf?_eq_some_iff, Numeral.ofInt]
  split
  next negative =>
    refine ⟨true, ['-'], _, .minus, decimal, rfl, ?_⟩
    rw [if_pos rfl, value_eq]
    omega
  next =>
    refine ⟨false, [], _, .absent, decimal, rfl, ?_⟩
    rw [if_neg Bool.false_ne_true, value_eq]
    omega

/-- A point in a mantissa is all that is not a digit. -/
theorem filter_isDigit_mantissa {whole fraction mantissa : List Char}
    (pointed : Decimal.MantissaText whole fraction mantissa)
    (decimal : DigitText (whole ++ fraction)) :
    mantissa.filter Char.isDigit = whole ++ fraction := by
  have kept := List.filter_eq_self.2 decimal.isDigit
  cases pointed with
  | plain => rwa [List.append_nil] at kept ⊢
  | pointed =>
    rw [List.filter_append, List.filter_cons_of_neg (by decide), ← List.filter_append, kept]

section
variable {scientific : Scientific} (decimal : DigitText scientific.digits)
include decimal

/-- What is printed as scientific notation denotes the number of its digits. -/
theorem denotes_scientificText :
    (PlacedDigits.ofScientific scientific).number.Denotes (scientificText scientific) := by
  obtain ⟨negative, sign, digits, signed, exponent_digits, text_eq, exponent_eq⟩ :=
    Decimal.exponentOf?_eq_some_iff.1 (exponentOf?_ofInt scientific.exponent)
  have exponential : ExponentText scientific.exponent
      ('e' :: Numeral.ofInt 10 scientific.exponent) := by
    rw [text_eq, exponent_eq]
    exact .present (.inl rfl) signed exponent_digits
  rw [PlacedDigits.number_ofScientific]
  exact denotes_pointedMantissa decimal exponential

/-- The digits are found again in the text. -/
theorem ofText_scientificText (small : IsWord scientific.exponent) :
    PlacedDigits.ofText (scientificText scientific) = PlacedDigits.ofScientific scientific := by
  obtain ⟨first, others, digits_eq, leading, pointed⟩ := exists_pointedMantissa decimal
  have unmarked : ∀ c ∈ pointedMantissa scientific.digits, (c == 'e') = false := by
    intro c member
    have not_mark := pointed.not_mark leading member
    rw [Decimal.isExponentMark, Bool.or_eq_false_iff] at not_mark
    exact not_mark.1
  rw [PlacedDigits.ofText, scientificText,
    Decimal.splitAtFirst_append unmarked (beq_self_eq_true 'e')]
  simp only [Option.bind_some, exponentOf?_ofInt, filter_isDigit_mantissa pointed leading]
  rw [Option.filter_some_pos (by simpa using small), Option.getD_some, List.singleton_append,
    ← digits_eq]

end

/-! ## Forms -/

/-- A text with an exponent: a digit other than zero, a fraction that does not end with a zero,
and an exponent with a sign and two digits at least. -/
inductive InExponentForm (upper : Bool) : List Char → Prop
  | intro {first sign : Char} {fraction digits : List Char} (leading : first.isDigit = true)
      (nonzero : first ≠ '0') (fraction_digits : ∀ c ∈ fraction, c.isDigit = true)
      (no_trailing_zero : fraction.getLast? ≠ some '0') (signed : sign = '-' ∨ sign = '+')
      (decimal : DigitText digits) (two_digits : 2 ≤ digits.length) :
      InExponentForm upper (first :: Decimal.pointedFraction fraction ++
        (if upper then 'E' else 'e') :: sign :: digits)

/-- A text without an exponent, in which no character could be left out. -/
def InPlainForm (text : List Char) : Prop :=
  ∃ whole fraction, CanonicalText false whole fraction text

/-- No text has both forms: plain notation has no mark. -/
theorem InExponentForm.not_inPlainForm {upper : Bool} {text : List Char}
    (exponential : InExponentForm upper text) : ¬ InPlainForm text := by
  rintro ⟨whole, fraction, plain⟩
  have decimal : DigitText (whole ++ fraction) :=
    ⟨List.append_ne_nil_of_left_ne_nil plain.whole_digits.ne_nil _, fun c member =>
      (List.mem_append.1 member).elim (plain.whole_digits.isDigit c) (plain.fraction_digits c)⟩
  have marked : ∃ c ∈ text, Decimal.isExponentMark c = true := by
    cases exponential with
    | intro =>
      refine ⟨_, List.mem_append_right _ List.mem_cons_self, ?_⟩
      cases upper <;> rfl
  obtain ⟨c, member, mark⟩ := marked
  have text_eq : text = whole ++ Decimal.pointedFraction fraction := plain.text_eq
  have pointed := Decimal.mantissaText_pointedFraction whole fraction
  rw [← text_eq] at pointed
  exact Bool.noConfusion ((pointed.not_mark decimal member).symm.trans mark)

theorem inExponentForm_withExponent (upper : Bool) {first : Char} {others : List Char}
    (decimal : DigitText (first :: others)) (nonzero : first ≠ '0')
    (ends : (first :: others).getLast? ≠ some '0') (exponent : ℤ) :
    InExponentForm upper (withExponent upper (pointedMantissa (first :: others)) exponent) := by
  have pointed : pointedMantissa (first :: others) =
      first :: Decimal.pointedFraction others := by
    cases others <;> rfl
  have fraction_ends : others.getLast? ≠ some '0' := by
    intro zero
    rw [List.getLast?_cons, zero] at ends
    exact ends rfl
  have two_digits : 2 ≤ (Numeral.padded 2 (Numeral.ofNat 10 exponent.natAbs)).length := by
    rw [Numeral.padded, List.length_append, List.length_replicate]
    omega
  have signed : (if exponent < 0 then '-' else '+') = '-' ∨
      (if exponent < 0 then '-' else '+') = '+' := by
    split
    · exact .inl rfl
    · exact .inr rfl
  rw [withExponent, pointed]
  exact .intro (decimal.isDigit first List.mem_cons_self) nonzero
    (fun c member => decimal.isDigit c (List.mem_cons_of_mem first member)) fraction_ends signed
    (Decimal.digitText_padded_ofNat 2 _) two_digits

/-! ## Where the forms part -/

/-- The exponent of ten from which on a number is written with an exponent: six without a
precision, and else the precision or, where the number is written by fewer digits without zeros
behind them, their count. -/
def exponentThreshold (precision : Option ℕ) (number : Decimal) : ℕ :=
  match precision with
  | none => 6
  | some precision =>
    if number.significantDigits < max 1 precision ∧ 0 ≤ number.scale then
      number.significantDigits
    else max 1 precision

/-- Whether a number is written with an exponent. -/
def WantsExponent (precision : Option ℕ) (number : Decimal) : Prop :=
  number.toRat ≠ 0 ∧
    (Int.log 10 number.toRat < -4 ∨
      exponentThreshold precision number ≤ Int.log 10 number.toRat)

/-- How many digits are to be shown, and the threshold for the exponent, by the digits. -/
def PlacedDigits.shownAndThreshold (placed : PlacedDigits) : Option ℕ → ℕ × ℕ
  | none => (placed.digits.length, 6)
  | some asked =>
    (asked, if placed.digits.length < asked ∧ placed.point ≤ placed.digits.length then
      placed.digits.length else asked)

section
variable {placed : PlacedDigits} (trimmed : placed.IsTrimmed)
include trimmed

/-- The digits decide about the exponent as their number does. -/
theorem wantsExponent_number_iff (precision : Option ℕ) :
    WantsExponent precision placed.number ↔
      placed.point - 1 < -4 ∨
        (placed.shownAndThreshold (precision.map (max 1))).2 ≤ placed.point - 1 := by
  by_cases zero : placed = .zero
  -- The digit of zero stands for no power of ten, and no threshold is as low as its place.
  · rw [WantsExponent, zero]
    refine iff_of_false (fun wants => wants.1 PlacedDigits.toRat_number_zero) ?_
    have positive :
        1 ≤ (PlacedDigits.zero.shownAndThreshold (precision.map (max 1))).2 := by
      cases precision with
      | none => decide
      | some precision =>
        simp only [PlacedDigits.shownAndThreshold, Option.map_some]
        split
        · exact Nat.le_refl 1
        · exact Nat.le_max_left 1 precision
    have point_eq : PlacedDigits.zero.point = 1 := rfl
    omega
  · obtain ⟨-, scale_eq⟩ := PlacedDigits.number_parts trimmed zero
    rw [WantsExponent, PlacedDigits.log_toRat_number trimmed zero,
      and_iff_right (PlacedDigits.toRat_number_ne_zero trimmed zero)]
    cases precision with
    | none => rfl
    | some precision =>
      simp only [exponentThreshold, PlacedDigits.shownAndThreshold, Option.map_some,
        PlacedDigits.significantDigits_number trimmed zero, scale_eq, Int.sub_nonneg]

end

/-! ## The layout and its slices -/

/-- The part of a text from one place to another, if the text has these places in this order. -/
def slice? (first last : ℕ) (text : List Char) : Option (List Char) :=
  if first ≤ last ∧ last ≤ text.length then some ((text.take last).drop first) else none

/-- The mantissa of as many digits as are shown, by a slice in front of the point and one behind
it. -/
def slicedMantissa? (shown : ℕ) (digits : List Char) : Option (List Char) := do
  let leading ← slice? 0 1 digits
  if 1 < shown then
    let fraction ← slice? 1 shown digits
    return leading ++ '.' :: fraction
  else return leading

/-- Both slices are within the digits, and nothing is lost between them. -/
theorem slicedMantissa?_eq {shown : ℕ} {digits : List Char} (positive : 0 < shown)
    (within : shown ≤ digits.length) :
    slicedMantissa? shown digits = some (pointedMantissa (digits.take shown)) := by
  cases digits with
  | nil => exact absurd within (Nat.not_le.2 positive)
  | cons first others =>
    obtain ⟨behind, rfl⟩ := Nat.exists_eq_succ_of_ne_zero (Nat.ne_of_gt positive)
    rw [Nat.succ_eq_add_one, List.length_cons] at within
    have leading : slice? 0 1 (first :: others) = some [first] :=
      if_pos ⟨Nat.zero_le 1, by rw [List.length_cons]; omega⟩
    have fraction : slice? 1 (behind + 1) (first :: others) = some (others.take behind) :=
      if_pos ⟨by omega, within⟩
    simp only [slicedMantissa?, leading, fraction, Nat.succ_eq_add_one, List.take_succ_cons,
      Option.bind_eq_bind, Option.bind_some]
    cases behind with
    | zero => rfl
    | succ behind =>
      cases others with
      | nil => exact absurd within (by rw [List.length_nil]; omega)
      | cons second others => rfl

namespace PlacedDigits

/-- The digits with an exponent, for an exponent below -4 or from the threshold on, or else in
plain notation. -/
def layOut (placed : PlacedDigits) (upper : Bool) (shown threshold : ℕ) : List Char :=
  if placed.point - 1 < -4 ∨ threshold ≤ placed.point - 1 then
    withExponent upper (pointedMantissa (placed.digits.take (min shown placed.digits.length)))
      (placed.point - 1)
  else placed.plain
    ((if placed.point < shown then placed.digits.length else shown) - placed.point).toNat

/-- The same with the mantissa put together from slices. -/
def layOutInSlices? (placed : PlacedDigits) (upper : Bool) (shown threshold : ℕ) :
    Option (List Char) :=
  if placed.point - 1 < -4 ∨ threshold ≤ placed.point - 1 then do
    let mantissa ← slicedMantissa? (min shown placed.digits.length) placed.digits
    return withExponent upper mantissa (placed.point - 1)
  else some (placed.plain
    ((if placed.point < shown then placed.digits.length else shown) - placed.point).toNat)

variable {placed : PlacedDigits} {shown : ℕ}

theorem layOutInSlices?_eq (upper : Bool) (threshold : ℕ) (nonempty : placed.digits ≠ [])
    (positive : 0 < shown) :
    placed.layOutInSlices? upper shown threshold = some (placed.layOut upper shown threshold) := by
  have digits_pos := List.length_pos_of_ne_nil nonempty
  rw [layOutInSlices?, layOut, slicedMantissa?_eq (by omega) (Nat.min_le_right _ _)]
  split <;> rfl

section
variable (all_shown : placed.digits.length ≤ shown)
include all_shown

theorem layOut_of_far (upper : Bool) {threshold : ℕ}
    (far : placed.point - 1 < -4 ∨ threshold ≤ placed.point - 1) :
    placed.layOut upper shown threshold =
      withExponent upper (pointedMantissa placed.digits) (placed.point - 1) := by
  rw [layOut, if_pos far, List.take_of_length_le (Nat.le_min.2 ⟨all_shown, Nat.le_refl _⟩)]

/-- Where no digit is cut off, all of them stand behind the point that are not in front of
it. -/
theorem layOut_of_near (upper : Bool) {threshold : ℕ}
    (near : ¬ (placed.point - 1 < -4 ∨ threshold ≤ placed.point - 1)) :
    placed.layOut upper shown threshold =
      placed.plain (placed.digits.length - placed.point).toNat := by
  rw [layOut, if_neg near]
  congr 1
  split <;> omega

end

end PlacedDigits

/-! ## The general form -/

/-- The digits that the general form starts from: the fewest that read back, or as many as the
precision asks for, one at least. -/
def generalDigits (precision : Option ℕ) (mantissa : ℕ) (exponent : ℤ) : Scientific :=
  match precision with
  | none => Binary64.shortest mantissa exponent
  | some precision => Binary64.rounded mantissa exponent (max 1 precision - 1)

/-- The general form made from printed scientific notation, as far as every slice of its digits
is one. -/
def generalFormOfText? (upper : Bool) (precision : Option ℕ) (text : List Char) :
    Option (List Char) :=
  let placed := PlacedDigits.ofText text
  let (shown, threshold) := placed.shownAndThreshold (precision.map (max 1))
  placed.layOutInSlices? upper shown threshold

theorem generalForm_eq_layOut (upper : Bool) (precision : Option ℕ) (mantissa : ℕ) (exponent : ℤ) :
    generalForm upper precision (.finite mantissa exponent) =
      let placed := PlacedDigits.ofScientific (generalDigits precision mantissa exponent)
      let (shown, threshold) := placed.shownAndThreshold (precision.map (max 1))
      placed.layOut upper shown threshold := by
  cases precision <;> rfl

section
variable {mantissa : ℕ} {exponent : ℤ} (finite : Binary64.IsFinite mantissa exponent)
  (precision : Option ℕ)
include finite

theorem isProper_generalDigits :
    ∃ count, (generalDigits precision mantissa exponent).IsProper (mantissa ≠ 0) count ∧
      ∀ asked ∈ precision.map (max 1), count ≤ asked := by
  cases precision with
  | none => exact ⟨18, Binary64.isProper_shortest finite, by simp⟩
  | some precision =>
    refine ⟨_, Binary64.isProper_rounded finite (max 1 precision - 1), ?_⟩
    simp only [Option.map_some, Option.mem_some_iff]
    omega

theorem isTrimmed_generalDigits :
    (PlacedDigits.ofScientific (generalDigits precision mantissa exponent)).IsTrimmed := by
  by_cases zero : mantissa = 0
  -- A precision prints several zeros for zero, and one of them is left.
  · have digits_zero : ∃ count, generalDigits precision mantissa exponent = .zero count := by
      cases precision with
      | none => exact ⟨1, if_pos zero⟩
      | some precision => exact ⟨_, if_pos zero⟩
    obtain ⟨count, digits_eq⟩ := digits_zero
    rw [digits_eq, PlacedDigits.ofScientific_zero]
    exact PlacedDigits.isTrimmed_zero
  · obtain ⟨count, proper, -⟩ := isProper_generalDigits finite precision
    exact PlacedDigits.isTrimmed_ofScientific
      ⟨proper.leads.decimal, fun _ => proper.leads.head?_ne_zero zero⟩

/-- No precision asks for fewer digits than there are. -/
theorem length_le_shown :
    let placed := PlacedDigits.ofScientific (generalDigits precision mantissa exponent)
    placed.digits.length ≤ (placed.shownAndThreshold (precision.map (max 1))).1 := by
  obtain ⟨count, proper, count_le⟩ := isProper_generalDigits finite precision
  have length_le := (PlacedDigits.isProper_ofScientific proper).length_le
  cases precision with
  | none => exact Nat.le_refl _
  | some precision => exact Nat.le_trans length_le (count_le _ rfl)

/-- Reading the printed digits and cutting them into slices gives the general form. -/
theorem generalFormOfText?_scientificText (upper : Bool) :
    generalFormOfText? upper precision
        (scientificText (generalDigits precision mantissa exponent)) =
      some (generalForm upper precision (.finite mantissa exponent)) := by
  obtain ⟨count, proper, -⟩ := isProper_generalDigits finite precision
  have nonempty := (isTrimmed_generalDigits finite precision).decimal.ne_nil
  have all_shown := length_le_shown finite precision
  have small : IsWord (generalDigits precision mantissa exponent).exponent := by
    have exponent_le := proper.exponent_le
    rw [IsWord, leastWord, greatestWord]
    omega
  have positive := Nat.lt_of_lt_of_le (List.length_pos_of_ne_nil nonempty) all_shown
  rw [generalFormOfText?, ofText_scientificText proper.leads.decimal small, generalForm_eq_layOut]
  exact PlacedDigits.layOutInSlices?_eq upper _ nonempty positive

end

/-- Digits that are laid out denote their number, in the form that the number wants. -/
theorem layOut_form {placed : PlacedDigits} (trimmed : placed.IsTrimmed) (upper : Bool)
    {shown threshold : ℕ} {wanted : Prop} (all_shown : placed.digits.length ≤ shown)
    (far_iff : wanted ↔ placed.point - 1 < -4 ∨ threshold ≤ placed.point - 1)
    (other : wanted → placed ≠ .zero) :
    placed.number.Denotes (placed.layOut upper shown threshold) ∧
      (InExponentForm upper (placed.layOut upper shown threshold) ↔ wanted) ∧
      (InPlainForm (placed.layOut upper shown threshold) ↔ ¬ wanted) := by
  by_cases far : wanted
  · rw [PlacedDigits.layOut_of_far all_shown upper (far_iff.1 far)]
    have form : InExponentForm upper
        (withExponent upper (pointedMantissa placed.digits) (placed.point - 1)) := by
      have decimal := trimmed.decimal
      have starts : placed.digits.head? ≠ some '0' := mt trimmed.eq_zero_of_head? (other far)
      have ends : placed.digits.getLast? ≠ some '0' := mt trimmed.eq_zero_of_getLast? (other far)
      obtain ⟨first, others, digits_eq⟩ := List.exists_cons_of_ne_nil decimal.ne_nil
      rw [digits_eq] at decimal starts ends ⊢
      exact inExponentForm_withExponent upper decimal
        (fun zero => starts (congrArg some zero)) ends _
    exact ⟨PlacedDigits.denotes_withExponent trimmed.decimal upper, iff_of_true form far,
      iff_of_false form.not_inPlainForm (not_not.2 far)⟩
  · rw [PlacedDigits.layOut_of_near all_shown upper (mt far_iff.2 far)]
    have form : InPlainForm (placed.plain (placed.digits.length - placed.point).toNat) :=
      ⟨_, _, PlacedDigits.canonicalText_plain trimmed⟩
    exact ⟨PlacedDigits.denotes_plain trimmed.decimal,
      iff_of_false (fun exponential => exponential.not_inPlainForm form) far,
      iff_of_true form far⟩

/-- The general form of a finite bit pattern, whatever the precision is, denotes the number of
the scientific notation that it is made from.  It has an exponent if the number wants one, and
else it is plain.  The slices that it is put together from are within the digits. -/
theorem generalForm_loses_no_digit (upper : Bool) (precision : Option ℕ) {bits : UInt64}
    {mantissa : ℕ} {exponent : ℤ}
    (finite : Magnitude.ofBits? bits = some (.finite mantissa exponent)) :
    ∃ number : Decimal,
      (∀ value : Decimal, value.Denotes
        (scientificText (generalDigits precision mantissa exponent)) ↔ value = number) ∧
      number.Denotes (generalForm upper precision (.finite mantissa exponent)) ∧
      (InExponentForm upper (generalForm upper precision (.finite mantissa exponent)) ↔
        WantsExponent precision number) ∧
      (InPlainForm (generalForm upper precision (.finite mantissa exponent)) ↔
        ¬ WantsExponent precision number) ∧
      generalFormOfText? upper precision
          (scientificText (generalDigits precision mantissa exponent)) =
        some (generalForm upper precision (.finite mantissa exponent)) := by
  have bounded := Binary64.isFinite_of_ofBits? finite
  obtain ⟨count, proper, -⟩ := isProper_generalDigits bounded precision
  have trimmed := isTrimmed_generalDigits bounded precision
  obtain ⟨denotes, exponent_iff, plain_iff⟩ :=
    layOut_form trimmed upper (length_le_shown bounded precision)
      (wantsExponent_number_iff trimmed precision) (by
        rintro wants zero
        exact wants.1 (zero ▸ PlacedDigits.toRat_number_zero))
  have printed := denotes_scientificText proper.leads.decimal
  have sliced := generalFormOfText?_scientificText bounded precision upper
  rw [generalForm_eq_layOut] at sliced ⊢
  refine ⟨_, fun value => ⟨fun read => printed.unique read, ?_⟩, denotes, exponent_iff,
    plain_iff, sliced⟩
  rintro rfl
  exact printed

/-- Nine digits, which no precision was given for. -/
theorem generalForm_loses_no_digit_nine_digits :
    Magnitude.ofBits? 0x419d6f3454000000 = some (.finite 8285044862877696 (-26)) ∧
      generalForm false none (.finite 8285044862877696 (-26)) = "1.23456789e+08".toList ∧
      generalFormOfText? false none "1.23456789e8".toList = some "1.23456789e+08".toList ∧
      ∃ number : Decimal, number.Denotes "1.23456789e8".toList ∧
        number.Denotes "1.23456789e+08".toList ∧ WantsExponent none number := by
  have finite : Magnitude.ofBits? 0x419d6f3454000000 = some (.finite 8285044862877696 (-26)) := by
    decide +kernel
  have printed : scientificText (generalDigits none 8285044862877696 (-26)) =
      "1.23456789e8".toList := by decide +kernel
  have laid_out : generalForm false none (.finite 8285044862877696 (-26)) =
      "1.23456789e+08".toList := by decide +kernel
  have form : InExponentForm false "1.23456789e+08".toList :=
    @InExponentForm.intro false '1' '+' "23456789".toList "08".toList (by decide) (by decide)
      (List.all_eq_true.1 (by decide)) (by decide) (.inr rfl)
      ⟨by decide, List.all_eq_true.1 (by decide)⟩ (by decide)
  obtain ⟨number, from_printed, denotes, exponent_iff, -, sliced⟩ :=
    generalForm_loses_no_digit false none finite
  rw [printed] at from_printed sliced
  rw [laid_out] at denotes exponent_iff sliced
  exact ⟨finite, laid_out, sliced, number, (from_printed number).2 rfl, denotes,
    exponent_iff.1 form⟩

end PolicyBuiltins.Template
