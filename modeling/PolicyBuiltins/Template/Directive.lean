/-
# Templates and their directives

A template is text with directives in it.  A directive is a percent sign, flags, a
width, a point with a precision, and a verb; everything between the sign and the
verb may be absent.  `pieces` cuts a template into single characters and
directives.  It is total: a template that ends before a verb ends in an unfinished
piece, and every other text is read to its end.

Counts are kept as written, whatever their size.  The limit on them is a matter of
formatting, where exceeding it is reported.
-/

import PolicyBuiltins.Numeral.Basic

namespace PolicyBuiltins.Template

/-- The flags of a directive; the order and number of their characters are
immaterial. -/
structure Flags where
  minus : Bool
  plus : Bool
  space : Bool
  zero : Bool
  sharp : Bool
deriving DecidableEq, Repr

/-- Whether a character is a flag. -/
def isFlag (c : Char) : Bool :=
  c == '-' || c == '+' || c == ' ' || c == '0' || c == '#'

/-- The flags that characters set. -/
def Flags.ofChars (flags : List Char) : Flags where
  minus := flags.contains '-'
  plus := flags.contains '+'
  space := flags.contains ' '
  zero := flags.contains '0'
  sharp := flags.contains '#'

/-- What a directive says between the percent sign and the verb. -/
structure Spec where
  flags : Flags
  width : Option Nat
  precision : Option Nat
deriving DecidableEq, Repr

/-- The number that the digits at the start of a text write, nothing where there
are none, and the text behind them. -/
def readCount (text : List Char) : Option Nat × List Char :=
  let digits := text.takeWhile Char.isDigit
  (if digits.isEmpty then none else some (Numeral.value 10 digits),
    text.dropWhile Char.isDigit)

/-- The precision at the start of a text, and the text behind it.  A point without
digits behind it means a precision of zero. -/
def readPrecision : List Char → Option Nat × List Char
  | '.' :: text =>
    let (count, behind) := readCount text
    (some (count.getD 0), behind)
  | text => (none, text)

/-- The specification at the start of a text, and the text behind it. -/
def Spec.read (text : List Char) : Spec × List Char :=
  let flags := Flags.ofChars (text.takeWhile isFlag)
  let (width, afterWidth) := readCount (text.dropWhile isFlag)
  let (precision, behind) := readPrecision afterWidth
  ({ flags, width, precision }, behind)

/-- A part of a template. -/
inductive Piece where
  /-- A character that stands for itself. -/
  | literal (c : Char)
  /-- A directive with its verb, which may be any character. -/
  | directive (spec : Spec) (verb : Char)
  /-- A directive that the end of the template cuts off before its verb. -/
  | unfinished (spec : Spec)
deriving DecidableEq, Repr

theorem length_readCount_le (text : List Char) :
    (readCount text).2.length ≤ text.length :=
  (List.dropWhile_suffix Char.isDigit).length_le

theorem length_readPrecision_le (text : List Char) :
    (readPrecision text).2.length ≤ text.length := by
  unfold readPrecision
  split
  next behind => exact Nat.le_succ_of_le (length_readCount_le behind)
  next => exact Nat.le_refl _

/-- What lies behind a specification is no longer than the text. -/
theorem Spec.length_behind_le {text behind : List Char} {spec : Spec}
    (read : Spec.read text = (spec, behind)) : behind.length ≤ text.length := by
  have shorter : (Spec.read text).2.length ≤ text.length :=
    Nat.le_trans (length_readPrecision_le _)
      (Nat.le_trans (length_readCount_le _) (List.dropWhile_suffix isFlag).length_le)
  rwa [read] at shorter

/-- The pieces of a template. -/
def pieces : List Char → List Piece
  | [] => []
  | c :: rest =>
    if c = '%' then
      match read : Spec.read rest with
      | (spec, []) => [.unfinished spec]
      | (spec, verb :: behind) =>
        have := Spec.length_behind_le read
        .directive spec verb :: pieces behind
    else .literal c :: pieces rest
termination_by text => text.length
decreasing_by
  · simp only [List.length_cons] at *
    omega
  · simp

/-- A run that ends inside a text ends at the same place when more text follows. -/
theorem takeWhile_append_of_dropWhile_ne_nil {test : Char → Bool} {text : List Char}
    (ends : text.dropWhile test ≠ []) (more : List Char) :
    (text ++ more).takeWhile test = text.takeWhile test := by
  induction text with
  | nil => exact absurd rfl ends
  | cons c rest ih =>
    rw [List.cons_append, List.takeWhile_cons, List.takeWhile_cons]
    by_cases holds : test c = true
    · rw [List.dropWhile_cons, if_pos holds] at ends
      rw [if_pos holds, if_pos holds, ih ends]
    · rw [if_neg holds, if_neg holds]

theorem dropWhile_append_of_dropWhile_ne_nil {test : Char → Bool} {text : List Char}
    (ends : text.dropWhile test ≠ []) (more : List Char) :
    (text ++ more).dropWhile test = text.dropWhile test ++ more := by
  induction text with
  | nil => exact absurd rfl ends
  | cons c rest ih =>
    rw [List.cons_append, List.dropWhile_cons, List.dropWhile_cons]
    by_cases holds : test c = true
    · rw [List.dropWhile_cons, if_pos holds] at ends
      rw [if_pos holds, if_pos holds, ih ends]
    · rw [if_neg holds, if_neg holds, List.cons_append]

/-- A count that something follows is read the same whatever follows that. -/
theorem readCount_append {text : List Char} (ends : (readCount text).2 ≠ [])
    (more : List Char) :
    readCount (text ++ more) = ((readCount text).1, (readCount text).2 ++ more) := by
  simp only [readCount] at ends ⊢
  rw [takeWhile_append_of_dropWhile_ne_nil ends, dropWhile_append_of_dropWhile_ne_nil ends]

theorem readPrecision_append {text : List Char} (ends : (readPrecision text).2 ≠ [])
    (more : List Char) :
    readPrecision (text ++ more) =
      ((readPrecision text).1, (readPrecision text).2 ++ more) := by
  match text with
  | [] => exact absurd rfl ends
  | c :: rest =>
    by_cases point : c = '.'
    · subst point
      have ends : (readCount rest).2 ≠ [] := ends
      have counted := readCount_append ends more
      simp only [List.cons_append, readPrecision, counted]
    · have bare : ∀ rest, readPrecision (c :: rest) = (none, c :: rest) := by
        intro rest
        unfold readPrecision
        split
        next same => exact absurd (List.cons.inj same).1 point
        next => rfl
      rw [List.cons_append, bare, bare]
      rfl

/-- A specification that something follows is read the same whatever follows that. -/
theorem Spec.read_append {text behind : List Char} {spec : Spec}
    (read : Spec.read text = (spec, behind)) (ends : behind ≠ []) (more : List Char) :
    Spec.read (text ++ more) = (spec, behind ++ more) := by
  simp only [Spec.read, Prod.mk.injEq] at read ⊢
  obtain ⟨rfl, rfl⟩ := read
  have width_ends : (readCount (text.dropWhile isFlag)).2 ≠ [] := fun empty =>
    ends (by rw [empty]; rfl)
  have flags_end : text.dropWhile isFlag ≠ [] := fun empty =>
    width_ends (by rw [empty]; rfl)
  rw [takeWhile_append_of_dropWhile_ne_nil flags_end,
    dropWhile_append_of_dropWhile_ne_nil flags_end, readCount_append width_ends,
    readPrecision_append ends]
  exact ⟨rfl, rfl⟩

/-- A template whose directives all reach their verbs can be read apart from what
follows it. -/
theorem pieces_append {text : List Char}
    (finished : ∀ spec, Piece.unfinished spec ∉ pieces text) (more : List Char) :
    pieces (text ++ more) = pieces text ++ pieces more := by
  fun_induction pieces text with
  | case1 => simp
  | case2 rest spec read => simp at finished
  | case3 rest spec verb behind read _ ih =>
    have read_more := Spec.read_append read (by simp) more
    rw [List.cons_append, pieces, if_pos rfl]
    split
    next spec' read' => simp_all
    next spec' verb' behind' read' =>
      rw [read_more] at read'
      simp only [List.cons_append, Prod.mk.injEq, List.cons.injEq] at read'
      obtain ⟨rfl, rfl, rfl⟩ := read'
      rw [ih (fun spec member => finished spec (List.mem_cons_of_mem _ member))]
      rfl
  | case4 c rest literal ih =>
    rw [List.cons_append, pieces, if_neg literal,
      ih (fun spec member => finished spec (List.mem_cons_of_mem _ member))]
    rfl

end PolicyBuiltins.Template
