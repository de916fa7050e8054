/-
# The parts of formatted output

A run over a template leaves a part for each thing that it comes to: text that it
shows, or a mismatch in its place.  Which parts these are depends on the template
and its arguments alone.  The rule for mismatches enters only afterwards, when the
parts are settled from left to right, so the two rules can be compared on one list
of parts.

`renderPieces_eq_settle` says that formatting is this.  The parts of templates side
by side are the parts of each, as `parts_append` states for arguments that are cut
where the first template has used up its own.
-/

import PolicyBuiltins.Template.Formatting

namespace PolicyBuiltins.Template

/-- A part of the output: text, or a mismatch that stands in its place. -/
inductive Part where
  | shown (text : List Char)
  | marked (mismatch : Mismatch)

/-- What a part comes to under a rule. -/
def Part.settle (rule : MismatchRule) : Part → Except Failure (List Char)
  | .shown text => .ok text
  | .marked mismatch => report rule mismatch

/-- What parts come to under a rule, one after the other. -/
def settle (rule : MismatchRule) : List Part → Except Failure (List Char)
  | [] => .ok []
  | part :: others => do
    let text ← part.settle rule
    let rest ← settle rule others
    return text ++ rest

/-- The counts of a specification that are too large. -/
def Spec.overlargeCounts (spec : Spec) : List Mismatch :=
  (if spec.width.any (maxCount < ·) then [.badWidth] else []) ++
    if spec.precision.any (maxCount < ·) then [.badPrecision] else []

/-- The part of an argument under the verb that a character names. -/
def argumentPart (spec : Spec) (verb : Char) (argument : Value) : Part :=
  match Verb.ofChar? verb with
  | none => .marked (.badVerb verb argument)
  | some named =>
    match named.render spec.limited argument with
    | some text => .shown text
    | none => .marked (.wrongType verb argument)

/-- The part of a directive behind its counts, the next argument given if there is
one. -/
def verbPart (spec : Spec) (verb : Char) (argument? : Option Value) : Part :=
  if verb = '%' then .shown ['%']
  else
    match argument? with
    | none => .marked (.missing verb)
    | some argument => argumentPart spec verb argument

namespace Piece

/-- Whether a piece takes an argument. -/
def takesArgument : Piece → Bool
  | .directive _ verb => verb != '%'
  | _ => false

/-- The arguments behind the one that a piece takes, if it takes any. -/
def remaining (piece : Piece) (arguments : List Value) : List Value :=
  if piece.takesArgument then arguments.tail else arguments

/-- The parts of a piece, the next argument given if there is one. -/
def parts (argument? : Option Value) : Piece → List Part
  | .literal c => [.shown [c]]
  | .directive spec verb =>
    spec.overlargeCounts.map .marked ++ [verbPart spec verb argument?]
  | .unfinished spec => spec.overlargeCounts.map .marked ++ [.marked .noVerb]

end Piece

/-- The parts of pieces with their arguments. -/
def parts : List Piece → List Value → List Part
  | [], [] => []
  | [], arguments => [.marked (.extra arguments)]
  | piece :: others, arguments =>
    piece.parts arguments.head? ++ parts others (piece.remaining arguments)

/-- The number of arguments that pieces take. -/
def argumentCount (template : List Piece) : Nat :=
  template.countP Piece.takesArgument

@[simp]
theorem settle_nil (rule : MismatchRule) : settle rule [] = .ok [] := rfl

theorem settle_cons (rule : MismatchRule) (part : Part) (others : List Part) :
    settle rule (part :: others) = (do
      let text ← part.settle rule
      let rest ← settle rule others
      return text ++ rest) := rfl

@[simp]
theorem settle_singleton (rule : MismatchRule) (part : Part) :
    settle rule [part] = part.settle rule := by
  rw [settle_cons, settle_nil]
  cases part.settle rule with
  | error failure => rfl
  | ok text =>
    show Except.ok (text ++ []) = Except.ok text
    rw [List.append_nil]

/-- Parts are settled from left to right: those in front decide before those
behind. -/
theorem settle_append (rule : MismatchRule) (front back : List Part) :
    settle rule (front ++ back) = (do
      let before ← settle rule front
      let behind ← settle rule back
      return before ++ behind) := by
  induction front with
  | nil =>
    rw [List.nil_append, settle_nil]
    cases settle rule back with
    | error failure => rfl
    | ok behind => rfl
  | cons part front ih =>
    rw [List.cons_append, settle_cons, settle_cons, ih]
    cases part.settle rule with
    | error failure => rfl
    | ok text =>
      cases settle rule front with
      | error failure => rfl
      | ok before =>
        cases settle rule back with
        | error failure => rfl
        | ok behind =>
          show Except.ok (text ++ (before ++ behind)) = Except.ok (text ++ before ++ behind)
          rw [List.append_assoc]

/-- The counts that are reported are those that are too large. -/
theorem reportCounts_eq_settle (rule : MismatchRule) (spec : Spec) :
    reportCounts rule spec = settle rule (spec.overlargeCounts.map .marked) := by
  rw [Spec.overlargeCounts, List.map_append, settle_append]
  have settle_when (condition : Bool) (mismatch : Mismatch) :
      settle rule ((if condition then [mismatch] else []).map .marked) =
        reportWhen condition rule mismatch := by
    cases condition with
    | false => rfl
    | true => exact settle_singleton rule (.marked mismatch)
  rw [settle_when, settle_when]
  rfl

theorem renderArgument_eq_settle (rule : MismatchRule) (spec : Spec) (verb : Char)
    (argument : Value) :
    renderArgument rule spec verb argument =
      (argumentPart spec verb argument).settle rule := by
  unfold renderArgument argumentPart
  cases Verb.ofChar? verb with
  | none => rfl
  | some named =>
    cases shown : named.render spec.limited argument with
    | none => simp only [shown, Part.settle]
    | some text => simp only [shown, Part.settle]

/-- A directive shows its part and leaves the arguments behind its own. -/
theorem renderDirective_eq_settle (rule : MismatchRule) (spec : Spec) (verb : Char)
    (arguments : List Value) :
    renderDirective rule spec verb arguments =
      ((verbPart spec verb arguments.head?).settle rule,
        (Piece.directive spec verb).remaining arguments) := by
  by_cases percent : verb = '%'
  · subst percent
    rfl
  · have takes : (Piece.directive spec verb).takesArgument = true := by
      simpa [Piece.takesArgument] using percent
    unfold renderDirective verbPart Piece.remaining
    rw [if_neg percent, if_neg percent, if_pos takes]
    cases arguments with
    | nil => rfl
    | cons argument others =>
      show (renderArgument rule spec verb argument, others) = _
      rw [renderArgument_eq_settle]
      rfl

/-- Formatting is settling the parts. -/
theorem renderPieces_eq_settle (rule : MismatchRule) (template : List Piece)
    (arguments : List Value) :
    renderPieces rule template arguments = settle rule (parts template arguments) := by
  induction template generalizing arguments with
  | nil =>
    cases arguments with
    | nil => rfl
    | cons argument others =>
      rw [parts, settle_singleton]
      · rfl
      · simp
  | cons piece others ih =>
    rw [parts, settle_append]
    cases piece with
    | literal c =>
      rw [renderPieces, ih]
      rfl
    | directive spec verb =>
      rw [renderPieces, renderDirective_eq_settle, Piece.parts, settle_append,
        settle_singleton, reportCounts_eq_settle]
      simp only [ih, bind_assoc, pure_bind]
    | unfinished spec =>
      rw [renderPieces, ih, Piece.parts, settle_append, settle_singleton,
        reportCounts_eq_settle]
      simp only [bind_assoc, pure_bind]
      rfl

theorem format_eq_settle (rule : MismatchRule) (template : List Char)
    (arguments : List Value) :
    format rule template arguments = settle rule (parts (pieces template) arguments) :=
  renderPieces_eq_settle rule (pieces template) arguments

/-- A piece that takes no argument does not look at the next one. -/
theorem Piece.parts_of_not_takesArgument {piece : Piece}
    (without : piece.takesArgument = false) (first? second? : Option Value) :
    piece.parts first? = piece.parts second? := by
  cases piece with
  | literal c => rfl
  | unfinished spec => rfl
  | directive spec verb =>
    have percent : verb = '%' := by simpa [Piece.takesArgument] using without
    rw [percent]
    rfl

/-- Pieces that have as many arguments as they take leave all others to the pieces
behind them. -/
theorem parts_append {front : List Piece} {early : List Value}
    (served : early.length = argumentCount front) (back : List Piece) (late : List Value) :
    parts (front ++ back) (early ++ late) = parts front early ++ parts back late := by
  induction front generalizing early with
  | nil =>
    rw [List.eq_nil_of_length_eq_zero served]
    rfl
  | cons piece front ih =>
    rw [argumentCount, List.countP_cons] at served
    cases taken : piece.takesArgument with
    | false =>
      rw [taken, if_neg Bool.false_ne_true] at served
      have stays (arguments : List Value) : piece.remaining arguments = arguments := by
        rw [Piece.remaining, taken, if_neg Bool.false_ne_true]
      rw [List.cons_append, parts, parts, stays, stays, ih served,
        Piece.parts_of_not_takesArgument taken _ early.head?, List.append_assoc]
    | true =>
      rw [taken, if_pos rfl] at served
      cases early with
      | nil => exact absurd served (by simp)
      | cons argument early =>
        have passes (arguments : List Value) :
            piece.remaining (argument :: arguments) = arguments := by
          rw [Piece.remaining, taken, if_pos rfl]
          rfl
        rw [List.cons_append, List.cons_append, parts, parts, passes, passes,
          ih (Nat.succ.inj served), List.append_assoc]
        rfl

end PolicyBuiltins.Template
