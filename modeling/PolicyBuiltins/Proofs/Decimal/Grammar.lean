/-
# The grammar of number literals

A literal is a sign that may be missing, a mantissa, and an exponent that may be missing.
The mantissa has digits with at most one point among them, and one digit at least; the
exponent is a mark, again a sign that may be missing, and at least one digit.

The reader of literals cuts a text at its first exponent mark and its first point.  It
accepts exactly the texts of this grammar, and the parts that it finds are the parts that
the text is made of.  Each production is shown in both directions before the whole.
-/

import Mathlib.Data.List.TakeWhile
import PolicyBuiltins.Decimal.Literal
import PolicyBuiltins.Proofs.Numeral.Canonical
import PolicyBuiltins.Proofs.Text.Trimming

namespace PolicyBuiltins.Decimal

/-! ## Productions -/

/-- A sign that may be missing, and whether it is a minus. -/
inductive SignText : Bool → List Char → Prop
  | absent : SignText false []
  | plus : SignText false ['+']
  | minus : SignText true ['-']

/-- A run of digits, one at least. -/
structure DigitText (digits : List Char) : Prop where
  ne_nil : digits ≠ []
  isDigit : ∀ c ∈ digits, c.isDigit = true

/-- The number that a run of digits denotes in the decimal system. -/
def decimalValue (digits : List Char) : ℕ :=
  Nat.ofDigits 10 (digits.reverse.map Numeral.digitValue)

/-- The digits in front of a point and those behind it.  Without a point there are no
digits behind it. -/
inductive MantissaText (whole : List Char) : List Char → List Char → Prop
  | plain : MantissaText whole [] whole
  | pointed (fraction : List Char) : MantissaText whole fraction (whole ++ '.' :: fraction)

/-- An exponent that may be missing.  It is zero then. -/
inductive ExponentText : Int → List Char → Prop
  | absent : ExponentText 0 []
  | present {mark : Char} {negative : Bool} {sign digits : List Char}
      (marks : mark = 'e' ∨ mark = 'E') (signed : SignText negative sign)
      (decimal : DigitText digits) :
      ExponentText (if negative then -(decimalValue digits : Int) else decimalValue digits)
        (mark :: (sign ++ digits))

/-- A text that is a literal of these parts. -/
inductive LiteralText (literal : Literal) : List Char → Prop
  | intro {sign mantissa exponent : List Char}
      (signed : SignText literal.negative sign)
      (pointed : MantissaText literal.whole literal.fraction mantissa)
      (decimal : DigitText (literal.whole ++ literal.fraction))
      (scaled : ExponentText literal.exponent exponent) :
      LiteralText literal (sign ++ mantissa ++ exponent)

/-- Reading digit after digit gives the number that the digits denote. -/
theorem value_eq_decimalValue (digits : List Char) :
    Numeral.value 10 digits = decimalValue digits :=
  Numeral.value_eq_ofDigits 10 digits

/-! ## Cutting a text at a character -/

theorem splitAtFirst_of_absent {test : Char → Bool} {text : List Char}
    (absent : ∀ c ∈ text, test c = false) : splitAtFirst test text = (text, none) := by
  have all_pass : text.dropWhile (!test ·) = [] := by
    rw [List.dropWhile_eq_nil_iff]
    intro c member
    rw [absent c member]
    rfl
  unfold splitAtFirst
  rw [all_pass]

theorem splitAtFirst_append {test : Char → Bool} {front : List Char} {mark : Char}
    (absent : ∀ c ∈ front, test c = false) (found : test mark = true) (back : List Char) :
    splitAtFirst test (front ++ mark :: back) = (front, some back) := by
  have passes : ∀ c ∈ front, (!test c) = true := by
    intro c member
    rw [absent c member]
    rfl
  have stops : (!test mark) = false := by rw [found]; rfl
  unfold splitAtFirst
  rw [List.dropWhile_append_of_pos passes, List.takeWhile_append_of_pos passes,
    List.dropWhile_cons_of_neg (by simp [stops]), List.takeWhile_cons_of_neg (by simp [stops]),
    List.append_nil]

/-- A cut leaves the text whole, or it takes one mark out of it. -/
theorem splitAtFirst_cases (test : Char → Bool) (text : List Char) :
    splitAtFirst test text = (text, none) ∨
      ∃ front mark back, test mark = true ∧ text = front ++ mark :: back ∧
        splitAtFirst test text = (front, some back) := by
  unfold splitAtFirst
  cases behind : text.dropWhile (!test ·) with
  | nil => exact Or.inl rfl
  | cons mark back =>
    have stops : (!test mark) = false := by
      have first := List.head?_dropWhile_not (!test ·) text
      rw [behind] at first
      simpa using first
    refine Or.inr ⟨text.takeWhile (!test ·), mark, back, by simpa using stops, ?_, rfl⟩
    rw [← behind, List.takeWhile_append_dropWhile]

/-! ## Signs -/

theorem signText_leadingSign (text : List Char) :
    ∃ sign, SignText (leadingSign text).1 sign ∧ text = sign ++ (leadingSign text).2 := by
  unfold leadingSign
  split
  next rest => exact ⟨['-'], .minus, rfl⟩
  next rest => exact ⟨['+'], .plus, rfl⟩
  next => exact ⟨[], .absent, rfl⟩

/-- A sign is read off a text that goes on without one. -/
theorem leadingSign_append {negative : Bool} {sign unsigned : List Char}
    (written : SignText negative sign)
    (unmarked : ∀ c ∈ unsigned.head?, c ≠ '-' ∧ c ≠ '+') :
    leadingSign (sign ++ unsigned) = (negative, unsigned) := by
  cases written with
  | plus => rfl
  | minus => rfl
  | absent =>
    rw [List.nil_append]
    unfold leadingSign
    split
    next => exact absurd rfl (unmarked '-' rfl).1
    next => exact absurd rfl (unmarked '+' rfl).2
    next => rfl

theorem ne_sign_of_isDigit {c : Char} (digit : c.isDigit = true) : c ≠ '-' ∧ c ≠ '+' := by
  constructor <;> rintro rfl <;> exact absurd digit (by decide)

/-! ## Mantissas -/

/-- Whether a character stands between the mantissa and the exponent. -/
def isExponentMark (c : Char) : Bool := c == 'e' || c == 'E'

theorem isExponentMark_eq_true_iff {c : Char} :
    isExponentMark c = true ↔ c = 'e' ∨ c = 'E' := by
  rw [isExponentMark, Bool.or_eq_true, beq_iff_eq, beq_iff_eq]

theorem not_point_of_isDigit {c : Char} (digit : c.isDigit = true) : (c == '.') = false := by
  refine beq_eq_false_iff_ne.2 ?_
  rintro rfl
  exact absurd digit (by decide)

theorem not_mark_of_isDigit {c : Char} (digit : c.isDigit = true) :
    isExponentMark c = false := by
  rw [Bool.eq_false_iff, Ne, isExponentMark_eq_true_iff]
  rintro (rfl | rfl)
  · exact absurd digit (by decide)
  · exact absurd digit (by decide)

theorem mantissaText_splitAtFirst (text : List Char) :
    MantissaText (splitAtFirst (· == '.') text).1
      ((splitAtFirst (· == '.') text).2.getD []) text := by
  rcases splitAtFirst_cases (· == '.') text with uncut | ⟨front, mark, back, point, rfl, cut⟩
  · rw [uncut]
    exact .plain
  · rw [cut, beq_iff_eq.1 point]
    exact .pointed back

/-- The digits of a mantissa are found at its point. -/
theorem splitAtFirst_mantissa {whole fraction mantissa : List Char}
    (written : MantissaText whole fraction mantissa) (digits : ∀ c ∈ whole, c.isDigit = true) :
    (splitAtFirst (· == '.') mantissa).1 = whole ∧
      (splitAtFirst (· == '.') mantissa).2.getD [] = fraction := by
  have no_point : ∀ c ∈ whole, (c == '.') = false := fun c member =>
    not_point_of_isDigit (digits c member)
  cases written with
  | plain =>
    rw [splitAtFirst_of_absent no_point]
    exact ⟨rfl, rfl⟩
  | pointed =>
    rw [splitAtFirst_append no_point (beq_self_eq_true '.')]
    exact ⟨rfl, rfl⟩

/-! ## The characters of the productions -/

theorem DigitText.unsigned {digits : List Char} (decimal : DigitText digits) :
    ∀ c ∈ digits.head?, c ≠ '-' ∧ c ≠ '+' := fun c first =>
  ne_sign_of_isDigit (decimal.isDigit c (List.mem_of_mem_head? first))

theorem SignText.mem {negative : Bool} {sign : List Char} {c : Char}
    (written : SignText negative sign) (member : c ∈ sign) : c = '-' ∨ c = '+' := by
  cases written with
  | absent => exact absurd member List.not_mem_nil
  | plus => exact Or.inr (List.mem_singleton.1 member)
  | minus => exact Or.inl (List.mem_singleton.1 member)

theorem SignText.not_mark {negative : Bool} {sign : List Char} {c : Char}
    (written : SignText negative sign) (member : c ∈ sign) : isExponentMark c = false := by
  rcases written.mem member with rfl | rfl <;> rfl

section
variable {whole fraction mantissa : List Char} {c : Char}

/-- A mantissa has its digits, and a point. -/
theorem MantissaText.mem (written : MantissaText whole fraction mantissa)
    (decimal : DigitText (whole ++ fraction)) (member : c ∈ mantissa) :
    c = '.' ∨ c.isDigit = true := by
  cases written with
  | plain => exact Or.inr (decimal.isDigit c (List.mem_append_left _ member))
  | pointed =>
    rcases List.mem_append.1 member with in_whole | in_rest
    · exact Or.inr (decimal.isDigit c (List.mem_append_left _ in_whole))
    · rcases List.mem_cons.1 in_rest with point | in_fraction
      · exact Or.inl point
      · exact Or.inr (decimal.isDigit c (List.mem_append_right _ in_fraction))

theorem MantissaText.not_mark (written : MantissaText whole fraction mantissa)
    (decimal : DigitText (whole ++ fraction)) (member : c ∈ mantissa) :
    isExponentMark c = false := by
  rcases written.mem decimal member with rfl | digit
  · rfl
  · exact not_mark_of_isDigit digit

theorem MantissaText.unsigned (written : MantissaText whole fraction mantissa)
    (decimal : DigitText (whole ++ fraction)) : ∀ c ∈ mantissa.head?, c ≠ '-' ∧ c ≠ '+' := by
  intro c first
  rcases written.mem decimal (List.mem_of_mem_head? first) with rfl | digit
  · decide
  · exact ne_sign_of_isDigit digit

end

/-! ## Exponents -/

/-- The exponent behind a mark. -/
theorem exponentOf?_eq_some_iff {text : List Char} {exponent : Int} :
    exponentOf? text = some exponent ↔
      ∃ negative sign digits, SignText negative sign ∧ DigitText digits ∧
        text = sign ++ digits ∧
        exponent = if negative then -(decimalValue digits : Int) else decimalValue digits := by
  simp only [← value_eq_decimalValue]
  constructor
  · intro read
    obtain ⟨sign, signed, text_eq⟩ := signText_leadingSign text
    simp only [exponentOf?] at read
    split at read
    next decimal =>
      exact ⟨_, sign, _, signed, ⟨decimal.1, List.all_eq_true.1 decimal.2⟩, text_eq,
        (Option.some.inj read).symm⟩
    next => cases read
  · rintro ⟨negative, sign, digits, signed, decimal, rfl, rfl⟩
    simp only [exponentOf?, leadingSign_append signed decimal.unsigned]
    rw [if_pos ⟨decimal.ne_nil, List.all_eq_true.2 decimal.isDigit⟩]

/-! ## Literals -/

/-- A computation behind a condition. -/
theorem guard_bind_eq_some_iff {α : Type} {condition : Prop} [Decidable condition]
    {next : Option α} {result : α} :
    (guard condition >>= fun _ => next) = some result ↔ condition ∧ next = some result := by
  by_cases holds : condition
  · simp [guard, holds]
  · simp [guard, holds, failure]

namespace Literal

/-- The parts that the reader finds in front of an exponent make a literal with it. -/
theorem literalText_of_cut (mantissa : List Char) {exponent : Int}
    {exponentText : List Char} (scaled : ExponentText exponent exponentText)
    (decimal : DigitText ((splitAtFirst (· == '.') (leadingSign mantissa).2).1 ++
      (splitAtFirst (· == '.') (leadingSign mantissa).2).2.getD [])) :
    LiteralText
      { negative := (leadingSign mantissa).1
        whole := (splitAtFirst (· == '.') (leadingSign mantissa).2).1
        fraction := (splitAtFirst (· == '.') (leadingSign mantissa).2).2.getD []
        exponent } (mantissa ++ exponentText) := by
  obtain ⟨sign, signed, mantissa_eq⟩ := signText_leadingSign mantissa
  have shape : mantissa ++ exponentText =
      sign ++ (leadingSign mantissa).2 ++ exponentText := by rw [← mantissa_eq]
  rw [shape]
  exact .intro signed (mantissaText_splitAtFirst _) decimal scaled

theorem literalText_of_ofText? {text : List Char} {literal : Literal}
    (read : ofText? text = some literal) : LiteralText literal text := by
  rcases splitAtFirst_cases (fun c => c == 'e' || c == 'E') text with
    uncut | ⟨mantissa, mark, behind, marks, rfl, cut⟩
  · simp only [ofText?, uncut] at read
    obtain ⟨decimal, parts⟩ := guard_bind_eq_some_iff.1 read
    have written := literalText_of_cut text .absent
      ⟨decimal.1, List.all_eq_true.1 decimal.2⟩
    rwa [List.append_nil, Option.some.inj parts] at written
  · simp only [ofText?, cut] at read
    obtain ⟨exponent, behind_read, read⟩ := Option.bind_eq_some_iff.1 read
    obtain ⟨decimal, parts⟩ := guard_bind_eq_some_iff.1 read
    obtain ⟨negative, sign, digits, signed, digit_text, rfl, rfl⟩ :=
      exponentOf?_eq_some_iff.1 behind_read
    rw [← Option.some.inj parts]
    exact literalText_of_cut mantissa
      (.present (isExponentMark_eq_true_iff.1 marks) signed digit_text)
      ⟨decimal.1, List.all_eq_true.1 decimal.2⟩

/-- The two sides of the first exponent mark. -/
theorem splitAtFirst_exponent {front exponentText : List Char} {exponent : Int}
    (unmarked : ∀ c ∈ front, isExponentMark c = false)
    (scaled : ExponentText exponent exponentText) :
    ∃ behind, splitAtFirst isExponentMark (front ++ exponentText) = (front, behind) ∧
      (match behind with
        | none => some 0
        | some digits => exponentOf? digits) = some exponent := by
  cases scaled with
  | absent =>
    rw [List.append_nil]
    exact ⟨none, splitAtFirst_of_absent unmarked, rfl⟩
  | present marks signed decimal =>
    refine ⟨some _, splitAtFirst_append unmarked (isExponentMark_eq_true_iff.2 marks) _, ?_⟩
    exact exponentOf?_eq_some_iff.2 ⟨_, _, _, signed, decimal, rfl, rfl⟩

theorem ofText?_of_literalText {text : List Char} {literal : Literal}
    (written : LiteralText literal text) : ofText? text = some literal := by
  obtain @⟨sign, mantissa, exponentText, signed, pointed, decimal, scaled⟩ := written
  have unmarked : ∀ c ∈ sign ++ mantissa, isExponentMark c = false := by
    intro c member
    rcases List.mem_append.1 member with in_sign | in_mantissa
    · exact signed.not_mark in_sign
    · exact pointed.not_mark decimal in_mantissa
  have whole_digits : ∀ c ∈ literal.whole, c.isDigit = true := fun c member =>
    decimal.isDigit c (List.mem_append_left _ member)
  obtain ⟨behind, cut, exponent_read⟩ := splitAtFirst_exponent unmarked scaled
  obtain ⟨whole_part, fraction_part⟩ := splitAtFirst_mantissa pointed whole_digits
  have accepted : literal.whole ++ literal.fraction ≠ [] ∧
      (literal.whole ++ literal.fraction).all Char.isDigit = true :=
    ⟨decimal.ne_nil, List.all_eq_true.2 decimal.isDigit⟩
  unfold isExponentMark at cut
  simp only [ofText?, cut, leadingSign_append signed (pointed.unsigned decimal), whole_part, fraction_part]
  cases behind with
  | none =>
    exact Option.bind_eq_some_iff.2
      ⟨_, exponent_read, guard_bind_eq_some_iff.2 ⟨accepted, rfl⟩⟩
  | some digits =>
    exact Option.bind_eq_some_iff.2
      ⟨_, exponent_read, guard_bind_eq_some_iff.2 ⟨accepted, rfl⟩⟩

/-- The reader accepts the texts of the grammar and finds their parts. -/
theorem ofText?_eq_some_iff {text : List Char} {literal : Literal} :
    ofText? text = some literal ↔ LiteralText literal text :=
  ⟨literalText_of_ofText?, ofText?_of_literalText⟩

end Literal

/-! ## Literals between white space -/

theorem not_isWhiteSpace_of_isDigit {c : Char} (digit : c.isDigit = true) :
    Unicode.isWhiteSpace c = false := by
  simp only [Char.isDigit, Bool.and_eq_true, decide_eq_true_eq, ge_iff_le,
    UInt32.le_iff_toNat_le] at digit
  have lower : 48 ≤ c.toNat := digit.1
  have upper : c.toNat ≤ 57 := digit.2
  have above_space : ¬ c.toNat ≤ 0x20 := by omega
  simp only [Unicode.isWhiteSpace, Unicode.whiteSpaceRuns, Unicode.Runs.holds]
  rw [if_neg (by omega), if_neg (by omega), if_neg (by omega), if_neg above_space,
    if_pos (by omega)]

theorem SignText.not_isWhiteSpace {negative : Bool} {sign : List Char} {c : Char}
    (written : SignText negative sign) (member : c ∈ sign) :
    Unicode.isWhiteSpace c = false := by
  rcases written.mem member with rfl | rfl <;> decide

theorem ExponentText.not_isWhiteSpace {exponent : Int} {text : List Char} {c : Char}
    (written : ExponentText exponent text) (member : c ∈ text) :
    Unicode.isWhiteSpace c = false := by
  cases written with
  | absent => exact absurd member List.not_mem_nil
  | present marks signed decimal =>
    rcases List.mem_cons.1 member with rfl | in_rest
    · rcases marks with rfl | rfl <;> decide
    · rcases List.mem_append.1 in_rest with in_sign | digit
      · exact signed.not_isWhiteSpace in_sign
      · exact not_isWhiteSpace_of_isDigit (decimal.isDigit c digit)

/-- No white space stands inside a literal. -/
theorem LiteralText.not_isWhiteSpace {literal : Literal} {text : List Char} {c : Char}
    (written : LiteralText literal text) (member : c ∈ text) :
    Unicode.isWhiteSpace c = false := by
  obtain ⟨signed, pointed, decimal, scaled⟩ := written
  rcases List.mem_append.1 member with in_front | in_exponent
  · rcases List.mem_append.1 in_front with in_sign | in_mantissa
    · exact signed.not_isWhiteSpace in_sign
    · rcases pointed.mem decimal in_mantissa with rfl | digit
      · decide
      · exact not_isWhiteSpace_of_isDigit digit
  · exact scaled.not_isWhiteSpace in_exponent

/-- The literal stands in the text, and nothing but white space stands around it. -/
def Literal.StandsIn (literal : Literal) (text : List Char) : Prop :=
  ∃ before body after, text = before ++ body ++ after ∧
    (∀ c ∈ before ++ after, Unicode.isWhiteSpace c = true) ∧ LiteralText literal body

/-- The literal that stands in a text is read off it once the text is trimmed. -/
theorem Literal.standsIn_iff {literal : Literal} {text : List Char} :
    literal.StandsIn text ↔ ofText? (Text.trimSpace text) = some literal := by
  rw [ofText?_eq_some_iff]
  constructor
  · rintro ⟨before, body, after, rfl, white, written⟩
    have inside (c : Char) (member : c ∈ body) : Unicode.isWhiteSpace c = false :=
      written.not_isWhiteSpace member
    rwa [Text.trimSpace, Text.trim_append_append white
      (fun c first => inside c (List.mem_of_mem_head? first))
      (fun c last => inside c (List.mem_of_getLast? last))]
  · intro written
    obtain ⟨before, after, text_eq, white⟩ :=
      Text.exists_append_trim Unicode.isWhiteSpace text
    exact ⟨before, _, after, text_eq, white, written⟩

/-- One literal at most stands in a text. -/
theorem Literal.StandsIn.unique {literal literal' : Literal} {text : List Char}
    (stands : literal.StandsIn text) (stands' : literal'.StandsIn text) :
    literal = literal' := by
  rw [standsIn_iff] at stands stands'
  exact Option.some.inj (stands.symm.trans stands')

end PolicyBuiltins.Decimal
