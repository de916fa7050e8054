/-
# How a directive is written

A directive is a percent sign, flags in any order and number, a width, a precision behind a
point, and a verb.  A width does not begin with a zero, because that is a flag, and a point
without digits asks for a precision of zero.  A template of this form is read as the directive
with these parts, and as nothing else.
-/

import PolicyBuiltins.Proofs.Decimal.Grammar
import PolicyBuiltins.Template.Verb

namespace PolicyBuiltins.Template

open Decimal (DigitText)

/-! ## Productions -/

/-- A width that may be missing. -/
inductive WidthText : Option ℕ → List Char → Prop
  | absent : WidthText none []
  | present {digits : List Char} (decimal : DigitText digits)
      (significant : digits.head? ≠ some '0') :
      WidthText (some (Numeral.value 10 digits)) digits

/-- A point and a precision, which may both be missing. -/
inductive PrecisionText : Option ℕ → List Char → Prop
  | absent : PrecisionText none []
  | point : PrecisionText (some 0) ['.']
  | present {digits : List Char} (decimal : DigitText digits) :
      PrecisionText (some (Numeral.value 10 digits)) ('.' :: digits)

/-- A template that is one directive with a verb. -/
inductive DirectiveText (verb : Char) : Spec → List Char → Prop
  | intro {flags width precision : List Char} {columns places : Option ℕ}
      (flagged : ∀ c ∈ flags, isFlag c = true) (wide : WidthText columns width)
      (precise : PrecisionText places precision) :
      DirectiveText verb
        { flags := Flags.ofChars flags, width := columns, precision := places }
        ('%' :: (flags ++ (width ++ (precision ++ [verb]))))

/-- A character that no flags, width or precision can go on with. -/
structure EndsSpec (c : Char) : Prop where
  not_flag : isFlag c = false
  not_digit : c.isDigit = false
  not_point : c ≠ '.'

/-- The characters that name verbs are letters. -/
theorem Verb.endsSpec_of_ofChar? {verb : Char} {kind : Verb}
    (named : Verb.ofChar? verb = some kind) : EndsSpec verb ∧ verb ≠ '%' := by
  unfold Verb.ofChar? at named
  split at named
  all_goals first
    | exact ⟨by constructor <;> decide, by decide⟩
    | cases named

/-! ## Reading -/

/-- A run in front of something that does not satisfy the test is all that is taken. -/
theorem takeWhile_append_of_stops {test : Char → Bool} {run behind : List Char}
    (passes : ∀ c ∈ run, test c = true) (stops : ∀ c ∈ behind.head?, test c = false) :
    (run ++ behind).takeWhile test = run := by
  rw [List.takeWhile_append_of_pos passes]
  cases behind with
  | nil => rw [List.takeWhile_nil, List.append_nil]
  | cons c behind => rw [List.takeWhile_cons_of_neg (by simp [stops c rfl]), List.append_nil]

theorem dropWhile_append_of_stops {test : Char → Bool} {run behind : List Char}
    (passes : ∀ c ∈ run, test c = true) (stops : ∀ c ∈ behind.head?, test c = false) :
    (run ++ behind).dropWhile test = behind :=
  Text.trimLeft_append passes stops

theorem readCount_digits {digits behind : List Char} (decimal : DigitText digits)
    (stops : ∀ c ∈ behind.head?, c.isDigit = false) :
    readCount (digits ++ behind) = (some (Numeral.value 10 digits), behind) := by
  rw [readCount, takeWhile_append_of_stops decimal.isDigit stops,
    dropWhile_append_of_stops decimal.isDigit stops,
    if_neg (by simpa using decimal.ne_nil)]

theorem readCount_nothing {behind : List Char}
    (stops : ∀ c ∈ behind.head?, c.isDigit = false) : readCount behind = (none, behind) := by
  have nothing_taken := takeWhile_append_of_stops (List.forall_mem_nil _) stops
  have nothing_dropped := dropWhile_append_of_stops (List.forall_mem_nil _) stops
  rw [List.nil_append] at nothing_taken nothing_dropped
  rw [readCount, nothing_taken, nothing_dropped]
  rfl

section
variable {verb : Char} (ends : EndsSpec verb) {columns places : Option ℕ}
  {width precision : List Char}
include ends

theorem PrecisionText.read_append (precise : PrecisionText places precision) :
    readPrecision (precision ++ [verb]) = (places, [verb]) := by
  have stops : ∀ c ∈ [verb].head?, c.isDigit = false := by simpa using ends.not_digit
  cases precise with
  | absent =>
    unfold readPrecision
    split
    next same => exact absurd (List.cons.inj same).1 ends.not_point
    next => rfl
  | point =>
    show ((some ((readCount [verb]).1.getD 0), (readCount [verb]).2) : Option ℕ × _) = _
    rw [readCount_nothing stops]
    rfl
  | @present digits decimal =>
    show ((some ((readCount (digits ++ [verb])).1.getD 0),
      (readCount (digits ++ [verb])).2) : Option ℕ × _) = _
    rw [readCount_digits decimal stops]
    rfl

/-- Neither a digit nor a flag stands at the start of a precision with its verb. -/
theorem PrecisionText.head_append (precise : PrecisionText places precision) :
    ∀ c ∈ (precision ++ [verb]).head?, c.isDigit = false ∧ isFlag c = false := by
  cases precise with
  | absent => simpa using ⟨ends.not_digit, ends.not_flag⟩
  | point => simp [isFlag]
  | present => simp [isFlag]

theorem WidthText.read_append (wide : WidthText columns width)
    (precise : PrecisionText places precision) :
    readCount (width ++ (precision ++ [verb])) = (columns, precision ++ [verb]) := by
  have stops : ∀ c ∈ (precision ++ [verb]).head?, c.isDigit = false := fun c first =>
    (precise.head_append ends c first).1
  cases wide with
  | absent => exact readCount_nothing stops
  | present decimal => exact readCount_digits decimal stops

/-- No flag stands at the start of a width with what follows it. -/
theorem WidthText.head_append (wide : WidthText columns width)
    (precise : PrecisionText places precision) :
    ∀ c ∈ (width ++ (precision ++ [verb])).head?, isFlag c = false := by
  cases wide with
  | absent => exact fun c first => (precise.head_append ends c first).2
  | present decimal significant =>
    intro c first
    obtain ⟨leading, digits, rfl⟩ := List.exists_cons_of_ne_nil decimal.ne_nil
    obtain rfl : leading = c := Option.some.inj first
    have digit := decimal.isDigit leading List.mem_cons_self
    have not_zero : leading ≠ '0' := fun zero => significant (congrArg some zero)
    -- Of the flags only the zero is a digit.
    have others (flag : Char) (other : flag.isDigit = false) :
        (leading == flag) = false :=
      beq_eq_false_iff_ne.2 fun same => Bool.false_ne_true (other.symm.trans (same ▸ digit))
    simp [isFlag, others '-' rfl, others '+' rfl, others ' ' rfl, others '#' rfl, not_zero]

/-- A template that is written as one directive is read as it. -/
theorem DirectiveText.pieces_eq {spec : Spec} {template : List Char}
    (written : DirectiveText verb spec template) :
    pieces template = [.directive spec verb] := by
  obtain @⟨flags, width, precision, columns, places, flagged, wide, precise⟩ := written
  have stops := wide.head_append ends precise
  have read : Spec.read (flags ++ (width ++ (precision ++ [verb]))) =
      ({ flags := Flags.ofChars flags, width := columns, precision := places }, [verb]) := by
    simp only [Spec.read, takeWhile_append_of_stops flagged stops,
      dropWhile_append_of_stops flagged stops, wide.read_append ends precise,
      precise.read_append ends]
  rw [pieces, if_pos rfl]
  split
  next read' => cases read.symm.trans read'
  next read' =>
    cases read.symm.trans read'
    rw [pieces]

end

/-! ## What is read is written -/

theorem exists_widthText (text : List Char) (unflagged : ∀ c ∈ text.head?, isFlag c = false) :
    ∃ width, text = width ++ (readCount text).2 ∧ WidthText (readCount text).1 width := by
  refine ⟨text.takeWhile Char.isDigit, List.takeWhile_append_dropWhile.symm, ?_⟩
  simp only [readCount]
  split
  next empty =>
    rw [List.isEmpty_iff.1 empty]
    exact .absent
  next digits =>
    rw [List.isEmpty_iff] at digits
    refine .present ⟨digits, fun c member => List.mem_takeWhile_imp member⟩ ?_
    -- A zero in front of the digits would have been read as a flag.
    intro zero
    obtain ⟨behind, text_eq⟩ := List.takeWhile_prefix (p := Char.isDigit) (l := text)
    have first : '0' ∈ text.head? := by
      rw [← text_eq, List.head?_append_of_ne_nil _ digits, zero]
      rfl
    exact Bool.noConfusion (unflagged '0' first)

theorem exists_precisionText (text : List Char) :
    ∃ precision, text = precision ++ (readPrecision text).2 ∧
      PrecisionText (readPrecision text).1 precision := by
  unfold readPrecision
  split
  next rest =>
    refine ⟨'.' :: rest.takeWhile Char.isDigit, ?_, ?_⟩
    · simp only [readCount]
      rw [List.cons_append, List.takeWhile_append_dropWhile]
    · simp only [readCount]
      split
      next empty =>
        rw [List.isEmpty_iff.1 empty]
        exact .point
      next digits =>
        rw [List.isEmpty_iff] at digits
        exact .present ⟨digits, fun c member => List.mem_takeWhile_imp member⟩
  next => exact ⟨[], rfl, .absent⟩

/-- What is read as a specification is written as its parts. -/
theorem exists_specText {text behind : List Char} {spec : Spec}
    (read : Spec.read text = (spec, behind)) :
    ∃ flags width precision, text = flags ++ (width ++ (precision ++ behind)) ∧
      (∀ c ∈ flags, isFlag c = true) ∧ spec.flags = Flags.ofChars flags ∧
      WidthText spec.width width ∧ PrecisionText spec.precision precision := by
  simp only [Spec.read, Prod.mk.injEq] at read
  obtain ⟨rfl, rfl⟩ := read
  have unflagged : ∀ c ∈ (text.dropWhile isFlag).head?, isFlag c = false := by
    intro c first
    have stopped := List.head?_dropWhile_not isFlag text
    rwa [first] at stopped
  obtain ⟨width, after_flags, wide⟩ := exists_widthText (text.dropWhile isFlag) unflagged
  obtain ⟨precision, after_width, precise⟩ :=
    exists_precisionText (readCount (text.dropWhile isFlag)).2
  refine ⟨text.takeWhile isFlag, width, precision, ?_,
    fun c member => List.mem_takeWhile_imp member, rfl, wide, precise⟩
  rw [← after_width, ← after_flags, List.takeWhile_append_dropWhile]

/-- What is read as a directive is written as one. -/
theorem exists_directiveText {text behind : List Char} {spec : Spec} {verb : Char}
    (read : Spec.read text = (spec, verb :: behind)) :
    ∃ directive, '%' :: text = directive ++ behind ∧ DirectiveText verb spec directive := by
  obtain ⟨flags, width, precision, rfl, flagged, flags_eq, wide, precise⟩ := exists_specText read
  have spec_eq : spec =
      { flags := Flags.ofChars flags, width := spec.width, precision := spec.precision } := by
    rw [← flags_eq]
  refine ⟨'%' :: (flags ++ (width ++ (precision ++ [verb]))), by simp, ?_⟩
  rw [spec_eq]
  exact .intro flagged wide precise

end PolicyBuiltins.Template
