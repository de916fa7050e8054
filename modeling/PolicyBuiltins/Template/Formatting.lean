/-
# Formatting arguments by a template

Formatting goes through the pieces of a template from left to right.  A directive
takes the next argument, except that `%%` takes none.  Where something disagrees,
the rule for mismatches decides between a marker in the output and a failure; under
both rules the run meets the same mismatches in the same order, up to the first one
that fails it.  Arguments left over are reported once, at the end.
-/

import PolicyBuiltins.Failure.Basic
import PolicyBuiltins.Settings
import PolicyBuiltins.Template.Mismatch
import PolicyBuiltins.Template.Verb

namespace PolicyBuiltins.Template

/-- What a mismatch comes to under a rule. -/
def report (rule : MismatchRule) (mismatch : Mismatch) : Except Failure (List Char) :=
  match rule with
  | .mark => .ok mismatch.marker
  | .reject => .error { cause := .format (String.ofList mismatch.description) }

/-- What a possible mismatch comes to under a rule. -/
def reportWhen (condition : Bool) (rule : MismatchRule) (mismatch : Mismatch) :
    Except Failure (List Char) :=
  if condition then report rule mismatch else .ok []

/-- The reports on the width and the precision of a directive. -/
def reportCounts (rule : MismatchRule) (spec : Spec) : Except Failure (List Char) := do
  let onWidth ← reportWhen (spec.width.any (maxCount < ·)) rule .badWidth
  let onPrecision ← reportWhen (spec.precision.any (maxCount < ·)) rule .badPrecision
  return onWidth ++ onPrecision

/-- The text of an argument under the verb that a character names. -/
def renderArgument (rule : MismatchRule) (spec : Spec) (verb : Char) (argument : Value) :
    Except Failure (List Char) :=
  match Verb.ofChar? verb with
  | none => report rule (.badVerb verb argument)
  | some named =>
    match named.render spec.limited argument with
    | some text => .ok text
    | none => report rule (.wrongType verb argument)

/-- The text of a directive, and the arguments that it leaves. -/
def renderDirective (rule : MismatchRule) (spec : Spec) (verb : Char)
    (arguments : List Value) : Except Failure (List Char) × List Value :=
  if verb = '%' then (.ok ['%'], arguments)
  else
    match arguments with
    | [] => (report rule (.missing verb), [])
    | argument :: others => (renderArgument rule spec verb argument, others)

/-- The text of pieces with their arguments. -/
def renderPieces (rule : MismatchRule) :
    List Piece → List Value → Except Failure (List Char)
  | [], [] => .ok []
  | [], arguments => report rule (.extra arguments)
  | .literal c :: others, arguments => do
    let rest ← renderPieces rule others arguments
    return c :: rest
  | .directive spec verb :: others, arguments => do
    let (shown, remaining) := renderDirective rule spec verb arguments
    let counts ← reportCounts rule spec
    let text ← shown
    let rest ← renderPieces rule others remaining
    return counts ++ text ++ rest
  | .unfinished spec :: others, arguments => do
    let counts ← reportCounts rule spec
    let ending ← report rule .noVerb
    let rest ← renderPieces rule others arguments
    return counts ++ ending ++ rest

/-- The text of a template with its arguments. -/
def format (rule : MismatchRule) (template : List Char) (arguments : List Value) :
    Except Failure (List Char) :=
  renderPieces rule (pieces template) arguments

end PolicyBuiltins.Template
