/-
# Counts in words

A count can be gathered in an unsigned 64-bit word, digit by digit, where every product and
every sum stops at the greatest word.  `scanCount` gathers it this way, `limitedCount` reports
it when it is too large, and `formatInWords` formats a template whose counts are all read so.

However many digits there are, the word that comes out is the one nearest to the number that
they write.  The greatest word is far above the limit on counts, so a count that stopped there
is reported as one that did not.  No count is therefore read wrong, and formatting in words is
formatting.

Behind a point, a count that was reported is treated as one that is missing.  The zero that a
bare point stands for therefore takes the place of every precision above the limit, and unlike
a width that was reported it changes what is shown.
-/

import PolicyBuiltins.Proofs.Template.DirectiveText
import PolicyBuiltins.Proofs.Template.Mismatches
import PolicyBuiltins.Proofs.Template.SingleDirective

namespace PolicyBuiltins.Template

open Decimal (DigitText decimalValue)

/-! ## Steps -/

/-- The unsigned 64-bit word nearest to a natural number. -/
def nearestUnsigned (number : ℕ) : UInt64 :=
  UInt64.ofNat (min number (UInt64.size - 1))

/-- A count with one more digit behind it, where the product and the sum each stop at the
greatest word. -/
def appendDigit (count : UInt64) (digit : Char) : UInt64 :=
  let tens := nearestUnsigned (count.toNat * 10)
  nearestUnsigned (tens.toNat + Numeral.digitValue digit)

/-- The digits at the start of a text taken into a count, if there is a count or a digit, and
the text behind them. -/
def scanCount (count : Option UInt64) : List Char → Option UInt64 × List Char
  | [] => (count, [])
  | c :: rest =>
    if c.isDigit then scanCount (some (appendDigit (count.getD 0) c)) rest
    else (count, c :: rest)

/-- What a count at the start of a text comes to: its report, the count if it is kept, and the
text behind it. -/
def limitedCount (rule : MismatchRule) (tooLarge : Mismatch) (text : List Char) :
    Except Failure (List Char × Option ℕ × List Char) :=
  match scanCount none text with
  | (none, behind) => .ok ([], none, behind)
  | (some count, behind) =>
    if UInt64.ofNat maxCount < count then do
      let marker ← report rule tooLarge
      return (marker, none, behind)
    else .ok ([], some count.toNat, behind)

/-- What a precision at the start of a text comes to.  Behind a point, a count that is missing
or not kept is a precision of zero. -/
def limitedPrecision (rule : MismatchRule) :
    List Char → Except Failure (List Char × Option ℕ × List Char)
  | '.' :: text => do
    let (marker, count, behind) ← limitedCount rule .badPrecision text
    return (marker, some (count.getD 0), behind)
  | text => .ok ([], none, text)

/-- The specification at the start of a text with its counts read in words: the reports on
them, what verbs are given, and the text behind it. -/
def Spec.readInWords (rule : MismatchRule) (text : List Char) :
    Except Failure (List Char × Spec × List Char) := do
  let flags := Flags.ofChars (text.takeWhile isFlag)
  let (onWidth, width, afterWidth) ← limitedCount rule .badWidth (text.dropWhile isFlag)
  let (onPrecision, precision, behind) ← limitedPrecision rule afterWidth
  return (onWidth ++ onPrecision, { flags, width, precision }, behind)

/-! ## The loop over the digits -/

theorem toNat_nearestUnsigned (number : ℕ) :
    (nearestUnsigned number).toNat = min number (UInt64.size - 1) := by
  rw [nearestUnsigned, UInt64.toNat_ofNat_of_lt']
  simp only [UInt64.size]
  omega

/-- A digit behind a count that has stopped leaves it stopped, and behind any other it makes
the word nearest to the longer number. -/
theorem appendDigit_nearestUnsigned (number : ℕ) (digit : Char) :
    appendDigit (nearestUnsigned number) digit =
      nearestUnsigned (number * 10 + Numeral.digitValue digit) := by
  rw [← UInt64.toNat_inj]
  simp only [appendDigit, toNat_nearestUnsigned, UInt64.size]
  omega

/-- What the loop has gathered behind a run of digits. -/
def gathered (digits : List Char) : Option UInt64 :=
  if digits = [] then none else some (nearestUnsigned (Numeral.value 10 digits))

theorem gathered_append_digit (digits : List Char) (digit : Char) :
    gathered (digits ++ [digit]) = some (appendDigit ((gathered digits).getD 0) digit) := by
  have value_eq : Numeral.value 10 (digits ++ [digit]) =
      Numeral.value 10 digits * 10 + Numeral.digitValue digit := by
    rw [Numeral.value, List.foldl_append]
    rfl
  have count_eq : (gathered digits).getD 0 = nearestUnsigned (Numeral.value 10 digits) := by
    rw [gathered]
    split
    next empty =>
      rw [empty]
      rfl
    next => rfl
  rw [gathered, if_neg (List.append_ne_nil_of_right_ne_nil _ (List.cons_ne_nil _ _)), value_eq,
    count_eq, appendDigit_nearestUnsigned]

/-- The loop takes all digits that there are, whatever it has gathered before. -/
theorem scanCount_gathered (taken text : List Char) :
    scanCount (gathered taken) text =
      (gathered (taken ++ text.takeWhile Char.isDigit), text.dropWhile Char.isDigit) := by
  induction text generalizing taken with
  | nil => simp [scanCount]
  | cons c rest ih =>
    rw [scanCount]
    split
    next digit =>
      rw [← gathered_append_digit, ih, List.takeWhile_cons_of_pos digit,
        List.dropWhile_cons_of_pos digit, List.append_assoc]
      rfl
    next other =>
      rw [List.takeWhile_cons_of_neg other, List.dropWhile_cons_of_neg other, List.append_nil]

theorem scanCount_none (text : List Char) :
    scanCount none text = ((readCount text).1.map nearestUnsigned, (readCount text).2) := by
  have scanned := scanCount_gathered [] text
  rw [List.nil_append] at scanned
  rw [show scanCount none text = scanCount (gathered []) text from rfl, scanned, readCount,
    gathered]
  split
  next empty => simp [empty]
  next digits => simp [digits]

/-! ## The limit -/

/-- The limit is the same for a count and for the word nearest to it. -/
theorem maxCount_lt_nearestUnsigned_iff {count : ℕ} :
    UInt64.ofNat maxCount < nearestUnsigned count ↔ maxCount < count := by
  rw [UInt64.lt_iff_toNat_lt, toNat_nearestUnsigned]
  simp only [maxCount, UInt64.size, UInt64.reduceOfNat, UInt64.reduceToNat]
  omega

section
variable (rule : MismatchRule) (tooLarge : Mismatch) {text : List Char} {count : ℕ}

theorem limitedCount_of_none (absent : (readCount text).1 = none) :
    limitedCount rule tooLarge text = .ok ([], none, (readCount text).2) := by
  rw [limitedCount, scanCount_none, absent]
  rfl

/-- A count within the limit fits a word. -/
theorem limitedCount_of_le (read : (readCount text).1 = some count) (small : count ≤ maxCount) :
    limitedCount rule tooLarge text = .ok ([], some count, (readCount text).2) := by
  have exact_word : (nearestUnsigned count).toNat = count := by
    rw [toNat_nearestUnsigned]
    simp only [maxCount, UInt64.size] at small ⊢
    omega
  rw [limitedCount, scanCount_none, read]
  simp only [Option.map_some, maxCount_lt_nearestUnsigned_iff]
  rw [if_neg (Nat.not_lt.2 small), exact_word]

theorem limitedCount_of_lt (read : (readCount text).1 = some count) (large : maxCount < count) :
    limitedCount rule tooLarge text =
      (report rule tooLarge).map fun marker => (marker, none, (readCount text).2) := by
  rw [limitedCount, scanCount_none, read]
  simp only [Option.map_some, maxCount_lt_nearestUnsigned_iff]
  rw [if_pos large]
  cases report rule tooLarge <;> rfl

/-- Reading a count in words reports it if it is too large, and keeps it if it is not. -/
theorem limitedCount_eq (text : List Char) :
    limitedCount rule tooLarge text =
      (reportWhen ((readCount text).1.any (maxCount < ·)) rule tooLarge).map fun marker =>
        (marker, (readCount text).1.filter (· ≤ maxCount), (readCount text).2) := by
  cases read : (readCount text).1 with
  | none => exact limitedCount_of_none rule tooLarge read
  | some count =>
    by_cases small : count ≤ maxCount
    · rw [limitedCount_of_le rule tooLarge read small, Option.any_some, reportWhen,
        if_neg (by simpa using small), Option.filter_some_pos (by simpa using small)]
      rfl
    · rw [limitedCount_of_lt rule tooLarge read (Nat.lt_of_not_le small), Option.any_some,
        reportWhen, if_pos (by simpa using small), Option.filter_some_neg (by simpa using small)]

end

theorem readPrecision_of_no_point {text : List Char} (bare : ∀ rest, text ≠ '.' :: rest) :
    readPrecision text = (none, text) := by
  unfold readPrecision
  split
  next rest => exact absurd rfl (bare rest)
  next => rfl

/-- A precision that is too large is reported and counts as zero. -/
theorem limitedPrecision_eq (rule : MismatchRule) (text : List Char) :
    limitedPrecision rule text =
      (reportWhen ((readPrecision text).1.any (maxCount < ·)) rule .badPrecision).map
        fun marker =>
          (marker,
            (readPrecision text).1.map fun places => if places ≤ maxCount then places else 0,
            (readPrecision text).2) := by
  unfold limitedPrecision
  split
  next behind =>
    rw [limitedCount_eq, show readPrecision ('.' :: behind) =
      (some ((readCount behind).1.getD 0), (readCount behind).2) from rfl]
    cases (readCount behind).1 with
    | none => rfl
    | some places =>
      simp only [Option.any_some, Option.getD_some, Option.map_some, reportWhen]
      by_cases small : places ≤ maxCount
      · rw [Option.filter_some_pos (by simpa using small), if_pos small,
          if_neg (by simpa using small)]
        rfl
      · rw [Option.filter_some_neg (by simpa using small), if_neg small,
          if_pos (by simpa using small)]
        cases report rule .badPrecision <;> rfl
  next bare =>
    rw [readPrecision_of_no_point bare]
    rfl

/-- Reading a specification in words gives its limited form behind the reports on it. -/
theorem Spec.readInWords_eq {text behind : List Char} {spec : Spec}
    (read : Spec.read text = (spec, behind)) (rule : MismatchRule) :
    Spec.readInWords rule text =
      (reportCounts rule spec).map fun counts => (counts, spec.limited, behind) := by
  simp only [Spec.read, Prod.mk.injEq] at read
  obtain ⟨rfl, rfl⟩ := read
  simp only [Spec.readInWords, limitedCount_eq, reportCounts]
  cases reportWhen ((readCount (text.dropWhile isFlag)).1.any (maxCount < ·)) rule .badWidth with
  | error failure => rfl
  | ok onWidth =>
    simp only [Except.map, bind, Except.bind, limitedPrecision_eq]
    cases reportWhen ((readPrecision (readCount (text.dropWhile isFlag)).2).1.any
      (maxCount < ·)) rule .badPrecision with
    | error failure => rfl
    | ok onPrecision => rfl

theorem Spec.exists_read_of_readInWords {rule : MismatchRule} {text counts behind : List Char}
    {spec : Spec} (read : Spec.readInWords rule text = .ok (counts, spec, behind)) :
    ∃ written, Spec.read text = (written, behind) ∧ spec = written.limited ∧
      reportCounts rule written = .ok counts := by
  cases plain : Spec.read text with
  | mk written rest =>
    rw [Spec.readInWords_eq plain] at read
    cases reported : reportCounts rule written with
    | error failure =>
      rw [reported] at read
      cases read
    | ok found =>
      rw [reported] at read
      cases read
      exact ⟨written, rfl, rfl, reported⟩

/-! ## Formatting -/

/-- The text of a template with its arguments, all counts read in words.  Verbs are given the
specification as it was read. -/
def formatInWords (rule : MismatchRule) :
    List Char → List Value → Except Failure (List Char)
  | [], [] => .ok []
  | [], arguments => report rule (.extra arguments)
  | c :: rest, arguments =>
    if c = '%' then
      match _read : Spec.readInWords rule rest with
      | .error failure => .error failure
      | .ok (counts, _, []) => do
        let ending ← report rule .noVerb
        let leftover ← formatInWords rule [] arguments
        return counts ++ ending ++ leftover
      | .ok (counts, spec, verb :: behind) => do
        let (shown, remaining) := renderDirective rule spec verb arguments
        let text ← shown
        let others ← formatInWords rule behind remaining
        return counts ++ text ++ others
    else do
      let others ← formatInWords rule rest arguments
      return c :: others
termination_by template => template.length
decreasing_by
  · simp
  · obtain ⟨written, plain_read, -⟩ := Spec.exists_read_of_readInWords _read
    have shorter := Spec.length_behind_le plain_read
    simp only [List.length_cons] at shorter ⊢
    omega
  · simp

/-- A specification that is limited once stays as it is. -/
theorem Spec.limited_limited (spec : Spec) : spec.limited.limited = spec.limited := by
  apply limited_of_allowed
  constructor
  · intro columns kept
    exact of_decide_eq_true (Option.filter_eq_some_iff.1 kept).2
  · intro places kept
    obtain ⟨asked, -, rfl⟩ := Option.map_eq_some_iff.1 kept
    split
    next small => exact small
    next => exact Nat.zero_le _

/-- A directive shows the same with its counts limited before. -/
theorem renderDirective_limited (rule : MismatchRule) (spec : Spec) (verb : Char)
    (arguments : List Value) :
    renderDirective rule spec.limited verb arguments =
      renderDirective rule spec verb arguments := by
  simp only [renderDirective, renderArgument, spec.limited_limited]

theorem formatInWords_nil (rule : MismatchRule) (arguments : List Value) :
    formatInWords rule [] arguments = renderPieces rule [] arguments := by
  cases arguments with
  | nil => rw [formatInWords, renderPieces]
  | cons argument others =>
    rw [formatInWords, renderPieces]
    · simp
    · simp

/-- Behind a percent sign the counts are reported first, and then the verb or its absence. -/
theorem formatInWords_percent (rule : MismatchRule) {rest behind : List Char} {spec : Spec}
    (read : Spec.read rest = (spec, behind)) (arguments : List Value) :
    formatInWords rule ('%' :: rest) arguments = do
      let counts ← reportCounts rule spec
      match behind with
      | [] =>
        let ending ← report rule .noVerb
        let leftover ← renderPieces rule [] arguments
        return counts ++ ending ++ leftover
      | verb :: later =>
        let (shown, remaining) := renderDirective rule spec verb arguments
        let text ← shown
        let others ← formatInWords rule later remaining
        return counts ++ text ++ others := by
  rw [formatInWords, if_pos rfl]
  split
  next failure failed =>
    rw [Spec.readInWords_eq read] at failed
    cases reported : reportCounts rule spec with
    | error found =>
      rw [reported] at failed
      cases failed
      rfl
    | ok counts =>
      rw [reported] at failed
      cases failed
  next counts handed read_words =>
    obtain ⟨written, plain, rfl, reported⟩ := Spec.exists_read_of_readInWords read_words
    cases read.symm.trans plain
    rw [reported, formatInWords_nil]
    rfl
  next counts handed verb later read_words =>
    obtain ⟨written, plain, rfl, reported⟩ := Spec.exists_read_of_readInWords read_words
    cases read.symm.trans plain
    rw [reported, renderDirective_limited]
    rfl

/-- Reading counts in words, which stop at the greatest one, changes no text and no
failure. -/
theorem formatInWords_eq_format (rule : MismatchRule) (template : List Char)
    (arguments : List Value) :
    formatInWords rule template arguments = format rule template arguments := by
  rw [format]
  fun_induction pieces template generalizing arguments with
  | case1 => exact formatInWords_nil rule arguments
  | case2 rest spec read => exact formatInWords_percent rule read arguments
  | case3 rest spec verb behind read _ ih =>
    rw [formatInWords_percent rule read]
    simp only [ih]
    rw [renderPieces]
  | case4 c rest literal ih =>
    rw [formatInWords, if_neg literal, ih]
    rfl

/-! ## What a count comes to -/

/-- The counts that verbs are given are those written in the template, as far as these are
within the limit. -/
theorem exists_written_of_readInWords {rule : MismatchRule} {text counts behind : List Char}
    {spec : Spec} (read : Spec.readInWords rule text = .ok (counts, spec, behind)) :
    ∃ flags width precision columns places,
      text = flags ++ (width ++ (precision ++ behind)) ∧ (∀ c ∈ flags, isFlag c = true) ∧
      WidthText columns width ∧ PrecisionText places precision ∧
      (∀ shown, spec.width = some shown ↔ columns = some shown ∧ shown ≤ maxCount) ∧
      ∀ shown, spec.precision = some shown ↔
        places = some shown ∧ shown ≤ maxCount ∨
          shown = 0 ∧ ∃ asked ∈ places, maxCount < asked := by
  obtain ⟨written, plain, rfl, -⟩ := Spec.exists_read_of_readInWords read
  obtain ⟨flags, width, precision, text_eq, flagged, -, wide, precise⟩ := exists_specText plain
  refine ⟨flags, width, precision, written.width, written.precision, text_eq, flagged, wide,
    precise, fun shown => ?_, fun shown => ?_⟩
  · rw [Spec.limited, Option.filter_eq_some_iff, decide_eq_true_eq]
  · rw [Spec.limited, Option.map_eq_some_iff]
    constructor
    · rintro ⟨asked, kept, rfl⟩
      by_cases small : asked ≤ maxCount
      · rw [if_pos small]
        exact .inl ⟨kept, small⟩
      · rw [if_neg small]
        exact .inr ⟨rfl, asked, kept, Nat.lt_of_not_le small⟩
    · rintro (⟨kept, small⟩ | ⟨rfl, asked, kept, large⟩)
      · exact ⟨shown, kept, if_pos small⟩
      · exact ⟨asked, kept, if_neg (Nat.not_le.2 large)⟩

/-- Counts are exact or reported, however many digits they have.  A count takes all digits that
stand where it is read, and it is their number if that is at most a million.  A greater one is
reported once and not kept.  So the widths and precisions that verbs are given are those of the
template, except that a precision is zero if its point has no digits behind it or if its number
was reported. -/
theorem counts_are_exact_or_reported (rule : MismatchRule) :
    (∀ (tooLarge : Mismatch) (digits behind : List Char), (∀ c ∈ digits, c.isDigit = true) →
      (∀ c ∈ behind.head?, c.isDigit = false) →
      (digits = [] →
        limitedCount rule tooLarge (digits ++ behind) = .ok ([], none, behind)) ∧
      (digits ≠ [] → decimalValue digits ≤ 1000000 →
        limitedCount rule tooLarge (digits ++ behind) =
          .ok ([], some (decimalValue digits), behind)) ∧
      (1000000 < decimalValue digits →
        limitedCount rule tooLarge (digits ++ behind) =
          match rule with
          | .mark => .ok (tooLarge.marker, none, behind)
          | .reject => .error { cause := .format (String.ofList tooLarge.description) })) ∧
    (∀ (text counts behind : List Char) (spec : Spec),
      Spec.readInWords rule text = .ok (counts, spec, behind) →
      ∃ flags width precision columns places,
        text = flags ++ (width ++ (precision ++ behind)) ∧ (∀ c ∈ flags, isFlag c = true) ∧
        WidthText columns width ∧ PrecisionText places precision ∧
        (∀ shown, spec.width = some shown ↔ columns = some shown ∧ shown ≤ 1000000) ∧
        ∀ shown, spec.precision = some shown ↔
          places = some shown ∧ shown ≤ 1000000 ∨
            shown = 0 ∧ ∃ asked ∈ places, 1000000 < asked) ∧
    ∀ (template : List Char) (arguments : List Value),
      formatInWords rule template arguments = format rule template arguments := by
  refine ⟨?_, fun text counts behind spec => exists_written_of_readInWords,
    formatInWords_eq_format rule⟩
  intro tooLarge digits behind decimal stops
  have counted (nonempty : digits ≠ []) :
      readCount (digits ++ behind) = (some (decimalValue digits), behind) := by
    rw [readCount_digits ⟨nonempty, decimal⟩ stops, Decimal.value_eq_decimalValue]
  refine ⟨fun empty => ?_, fun nonempty small => ?_, fun large => ?_⟩
  · have nothing : readCount (digits ++ behind) = (none, behind) := by
      rw [empty]
      exact readCount_nothing stops
    rw [limitedCount_of_none rule tooLarge (congrArg Prod.fst nothing), nothing]
  · rw [limitedCount_of_le rule tooLarge (congrArg Prod.fst (counted nonempty)) small,
      counted nonempty]
  · have nonempty : digits ≠ [] := by
      rintro rfl
      exact absurd large (by decide)
    rw [limitedCount_of_lt rule tooLarge (congrArg Prod.fst (counted nonempty)) large,
      counted nonempty]
    cases rule <;> rfl

/-- The number of these digits is one more than a multiple of the greatest word and one. -/
theorem counts_are_exact_or_reported_beyond_words :
    (∀ c ∈ "18446744073709551617".toList, c.isDigit = true) ∧
      1000000 < decimalValue "18446744073709551617".toList ∧
      limitedCount .mark .badWidth ("18446744073709551617".toList ++ ['d']) =
        .ok ("%!(BADWIDTH)".toList, none, ['d']) ∧
      limitedCount .reject .badWidth ("18446744073709551617".toList ++ ['d']) =
        .error { cause := .format "width exceeds 1000000" } ∧
      format .mark "%18446744073709551617d".toList [.ofInt 1] = .ok "%!(BADWIDTH)1".toList := by
  have decimal : ∀ c ∈ "18446744073709551617".toList, c.isDigit = true :=
    List.all_eq_true.1 (by decide)
  have large : 1000000 < decimalValue "18446744073709551617".toList := by
    rw [← Decimal.value_eq_decimalValue]
    decide
  have words : formatInWords .mark "%18446744073709551617d".toList [.ofInt 1] =
      .ok "%!(BADWIDTH)1".toList := by decide +kernel
  have stops : ∀ c ∈ ['d'].head?, c.isDigit = false := by simp
  refine ⟨decimal, large, ?_, ?_, ?_⟩
  · exact ((counts_are_exact_or_reported .mark).1 .badWidth _ ['d'] decimal stops).2.2 large
  · exact ((counts_are_exact_or_reported .reject).1 .badWidth _ ['d'] decimal stops).2.2 large
  · rw [← (counts_are_exact_or_reported .mark).2.2]
    exact words

/-- A precision above the limit that is only marked is shown as one of zero, which is not its
number: nothing is left of a fraction, and zeros in front of an integer are lost. -/
theorem not_written_precision_above_limit :
    PrecisionText (some 1000001) ".1000001".toList ∧
      Spec.readInWords .mark ".1000001f".toList =
        .ok ("%!(BADPREC)".toList,
          { flags := Flags.ofChars [], width := none, precision := some 0 }, ['f']) ∧
      format .mark "%.1000001f".toList [.number ⟨15, 1, by decide, by decide⟩] =
        .ok "%!(BADPREC)2".toList ∧
      format .mark "%05.1000001d".toList [.ofInt 5] = .ok "%!(BADPREC)    5".toList ∧
      format .mark "%05d".toList [.ofInt 5] = .ok "00005".toList := by
  have decimal : DigitText "1000001".toList := ⟨by decide, List.all_eq_true.1 (by decide)⟩
  exact ⟨.present decimal, by decide +kernel, by decide +kernel, by decide +kernel,
    by decide +kernel⟩

end PolicyBuiltins.Template
