/-
# Where formatting meets mismatches

The mismatches of a template and its arguments are read off the pieces from left to
right, without forming any output: a count above the limit, a verb without an
argument, a character that names no verb, an argument that the verb does not
accept, an end before a verb, and last the arguments left over.

Marking shows exactly these mismatches, in this order, and never fails.  Rejecting
gives the same text where there are none, and else fails with the words for the
first of them.
-/

import PolicyBuiltins.Proofs.Template.Parts

namespace PolicyBuiltins.Template

/-- Whether a verb accepts an argument. -/
def Verb.accepts : Verb → Value → Bool
  | .text, _ => true
  | .quoted, _ => true
  | .truth, .bool _ => true
  | .integer _, .number number => number.isInteger
  | .integer (.hexadecimal _), .string _ => true
  | .character, .number number => number.isInteger && decide (IsWord number.truncate)
  | .fixed, .number _ => true
  | .exponent _, .number _ => true
  | .general _, .number _ => true
  | _, _ => false

/-- What is wrong with a verb and the next argument, if there is one. -/
def verbMismatch? (verb : Char) : Option Value → Option Mismatch
  | none => some (.missing verb)
  | some argument =>
    match Verb.ofChar? verb with
    | none => some (.badVerb verb argument)
    | some named =>
      if named.accepts argument then none else some (.wrongType verb argument)

/-- The mismatches of a piece, the next argument given if there is one. -/
def Piece.mismatches (argument? : Option Value) : Piece → List Mismatch
  | .literal _ => []
  | .directive spec verb =>
    spec.overlargeCounts ++
      if verb = '%' then [] else (verbMismatch? verb argument?).toList
  | .unfinished spec => spec.overlargeCounts ++ [.noVerb]

/-- The mismatches of pieces with their arguments, from left to right. -/
def mismatches : List Piece → List Value → List Mismatch
  | [], [] => []
  | [], arguments => [.extra arguments]
  | piece :: others, arguments =>
    piece.mismatches arguments.head? ++ mismatches others (piece.remaining arguments)

/-- The failure that a rejected mismatch is. -/
def Mismatch.failure (mismatch : Mismatch) : Failure where
  cause := .format (String.ofList mismatch.description)

namespace Part

/-- What a part shows where mismatches are marked. -/
def text : Part → List Char
  | .shown text => text
  | .marked mismatch => mismatch.marker

/-- The mismatch that a part marks. -/
def mismatch? : Part → Option Mismatch
  | .shown _ => none
  | .marked mismatch => some mismatch

end Part

/-! ## The parts mark the mismatches -/

/-- A verb has a text for exactly the arguments that it accepts. -/
theorem Verb.isSome_render (verb : Verb) (spec : Spec) (argument : Value) :
    (verb.render spec argument).isSome = verb.accepts argument := by
  cases verb with
  | text => rfl
  | quoted => rfl
  | truth => cases argument <;> rfl
  | integer radix =>
    cases argument with
    | number number => cases whole : number.isInteger <;> simp [render, accepts, whole]
    | string content => cases radix <;> rfl
    | null => cases radix <;> rfl
    | bool truth => cases radix <;> rfl
    | array items => cases radix <;> rfl
    | object entries => cases radix <;> rfl
    | set members => cases radix <;> rfl
  | character =>
    cases argument with
    | number number =>
      by_cases word : number.isInteger = true ∧ IsWord number.truncate
      · simp [render, accepts, Value.asNumber?, Decimal.toWord?, word]
      · simp only [render, accepts, Value.asNumber?, Option.bind_some, Decimal.toWord?,
          if_neg word]
        simpa using word
    | null => rfl
    | bool truth => rfl
    | string content => rfl
    | array items => rfl
    | object entries => rfl
    | set members => rfl
  | fixed => cases argument <;> rfl
  | exponent upper => cases argument <;> rfl
  | general upper => cases argument <;> rfl

theorem mismatch?_argumentPart (spec : Spec) (verb : Char) (argument : Value) :
    (argumentPart spec verb argument).mismatch? = verbMismatch? verb (some argument) := by
  unfold argumentPart verbMismatch?
  cases Verb.ofChar? verb with
  | none => rfl
  | some named =>
    have accepted := named.isSome_render spec.limited argument
    cases shown : named.render spec.limited argument with
    | none =>
      rw [shown, Option.isSome_none] at accepted
      simp only [← accepted, shown]
      rfl
    | some text =>
      rw [shown, Option.isSome_some] at accepted
      simp only [← accepted, shown]
      rfl

theorem filterMap_mismatch?_marked (found : List Mismatch) :
    (found.map Part.marked).filterMap Part.mismatch? = found := by
  rw [List.filterMap_map]
  exact List.filterMap_some

theorem filterMap_mismatch?_verbPart (spec : Spec) (verb : Char) (argument? : Option Value) :
    [verbPart spec verb argument?].filterMap Part.mismatch? =
      if verb = '%' then [] else (verbMismatch? verb argument?).toList := by
  unfold verbPart
  by_cases percent : verb = '%'
  · rw [if_pos percent, if_pos percent]
    rfl
  · rw [if_neg percent, if_neg percent]
    cases argument? with
    | none => rfl
    | some argument =>
      rw [← mismatch?_argumentPart spec verb argument]
      show [argumentPart spec verb argument].filterMap Part.mismatch? = _
      cases argumentPart spec verb argument <;> rfl

theorem Piece.filterMap_mismatch?_parts (piece : Piece) (argument? : Option Value) :
    (piece.parts argument?).filterMap Part.mismatch? = piece.mismatches argument? := by
  cases piece with
  | literal c => rfl
  | unfinished spec =>
    rw [Piece.parts, List.filterMap_append, filterMap_mismatch?_marked]
    rfl
  | directive spec verb =>
    rw [Piece.parts, List.filterMap_append, filterMap_mismatch?_marked,
      filterMap_mismatch?_verbPart, Piece.mismatches]

/-- The parts of a run mark the mismatches of the template, in their order. -/
theorem filterMap_mismatch?_parts (template : List Piece) (arguments : List Value) :
    (parts template arguments).filterMap Part.mismatch? = mismatches template arguments := by
  induction template generalizing arguments with
  | nil => cases arguments <;> rfl
  | cons piece others ih =>
    rw [parts, mismatches, List.filterMap_append, piece.filterMap_mismatch?_parts, ih]

/-! ## What the two rules make of the parts -/

theorem settle_mark (run : List Part) : settle .mark run = .ok (run.flatMap Part.text) := by
  induction run with
  | nil => rfl
  | cons part others ih =>
    rw [settle_cons, ih]
    cases part <;> rfl

/-- Where mismatches are rejected, the parts in front of the first one leave no trace
and those behind it are never reached. -/
theorem settle_reject (run : List Part) :
    settle .reject run =
      match run.filterMap Part.mismatch? with
      | [] => .ok (run.flatMap Part.text)
      | first :: _ => .error first.failure := by
  induction run with
  | nil => rfl
  | cons part others ih =>
    rw [settle_cons, ih]
    cases part with
    | marked mismatch => rfl
    | shown text =>
      rw [List.filterMap_cons]
      cases found : others.filterMap Part.mismatch? with
      | nil => rfl
      | cons first later => rfl

/-- Marking never fails. -/
theorem format_mark (template : List Char) (arguments : List Value) :
    format .mark template arguments =
      .ok ((parts (pieces template) arguments).flatMap Part.text) := by
  rw [format_eq_settle, settle_mark]

/-- Rejecting fails with the first mismatch, and without one does what marking does. -/
theorem format_reject (template : List Char) (arguments : List Value) :
    format .reject template arguments =
      match mismatches (pieces template) arguments with
      | [] => format .mark template arguments
      | first :: _ => .error first.failure := by
  rw [format_eq_settle, settle_reject, filterMap_mismatch?_parts, format_mark]

/-- Formatting fails only where mismatches are rejected and there is one. -/
theorem format_eq_error_iff {rule : MismatchRule} {template : List Char}
    {arguments : List Value} {failure : Failure} :
    format rule template arguments = .error failure ↔
      rule = .reject ∧ ∃ first later,
        mismatches (pieces template) arguments = first :: later ∧
          failure = { cause := .format (String.ofList first.description) } := by
  cases rule with
  | mark => simp [format_mark]
  | reject =>
    rw [format_reject]
    cases mismatches (pieces template) arguments with
    | nil => simp [format_mark]
    | cons first later =>
      rw [Except.error.injEq]
      apply Iff.intro
      · rintro rfl
        exact ⟨rfl, first, later, rfl, rfl⟩
      · rintro ⟨-, first', later', same, rfl⟩
        rw [(List.cons.inj same).1]
        rfl

/-- The two rules side by side.  Marking always gives a text, and the marks in it are
the mismatches of the template.  Rejecting gives a text only where there are none,
and then the same one; otherwise it fails with the words for the first of them. -/
theorem format_reject_stops_at_first_mark (template : List Char) (arguments : List Value) :
    format .mark template arguments =
        .ok ((parts (pieces template) arguments).flatMap Part.text) ∧
      (parts (pieces template) arguments).filterMap Part.mismatch? =
        mismatches (pieces template) arguments ∧
      (∀ text, format .reject template arguments = .ok text ↔
        mismatches (pieces template) arguments = [] ∧
          format .mark template arguments = .ok text) ∧
      ∀ failure, format .reject template arguments = .error failure ↔
        ∃ first later, mismatches (pieces template) arguments = first :: later ∧
          failure = { cause := .format (String.ofList first.description) } := by
  refine ⟨format_mark template arguments, filterMap_mismatch?_parts _ arguments, ?_, ?_⟩
  · intro text
    rw [format_reject]
    cases mismatches (pieces template) arguments with
    | nil => simp
    | cons first later => simp
  · intro failure
    exact format_eq_error_iff.trans (and_iff_right rfl)

end PolicyBuiltins.Template
