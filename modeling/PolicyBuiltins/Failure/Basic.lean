/-
# Failures

A failure is a cause with what is known about where it arose: the built-in that
was at work, and the place of the call.  Layers that pass a failure on add to this
context.  A later layer overwrites what an earlier one said on the same point and
leaves the other point, and the cause, alone.
-/

import PolicyBuiltins.Failure.Cause
import PolicyBuiltins.Location

namespace PolicyBuiltins

/-- Where a failure arose. -/
structure Context where
  builtin : Option String := none
  location : Option Location := none
deriving DecidableEq, Repr

/-- The text of a context: the place of the call, if known. -/
def Context.text (context : Context) : String :=
  match context.location with
  | some location => "at " ++ location.text
  | none => ""

/-- A cause, and where it arose as far as any layer has said. -/
structure Failure where
  cause : Cause
  context : Option Context := none
deriving DecidableEq, Repr

namespace Failure

/-- The failure with the name of the built-in that was at work. -/
def inBuiltin (failure : Failure) (name : String) : Failure :=
  { failure with
    context := some { failure.context.getD {} with builtin := some name } }

/-- The failure with the place of the call. -/
def located (failure : Failure) (location : Location) : Failure :=
  { failure with
    context := some { failure.context.getD {} with location := some location } }

/-- The position of the operand that the failure is about. -/
def position? (failure : Failure) : Option Nat :=
  failure.cause.position?

/-- The built-in that was at work, if known. -/
def builtin? (failure : Failure) : Option String :=
  failure.context.bind Context.builtin

/-- The place of the call, if known. -/
def location? (failure : Failure) : Option Location :=
  failure.context.bind Context.location

/-- The message of a failure: the cause, behind the built-in and before the place
of the call where they are known. -/
def message (failure : Failure) : String :=
  let front := match failure.builtin? with
    | some name => name ++ ": "
    | none => ""
  let back := match failure.location? with
    | some location => " at " ++ location.text
    | none => ""
  front ++ failure.cause.message ++ back

instance : ToString Failure := ⟨message⟩

@[simp]
theorem cause_inBuiltin (failure : Failure) (name : String) :
    (failure.inBuiltin name).cause = failure.cause := rfl

@[simp]
theorem cause_located (failure : Failure) (location : Location) :
    (failure.located location).cause = failure.cause := rfl

@[simp]
theorem builtin?_inBuiltin (failure : Failure) (name : String) :
    (failure.inBuiltin name).builtin? = some name := rfl

@[simp]
theorem location?_located (failure : Failure) (location : Location) :
    (failure.located location).location? = some location := rfl

@[simp]
theorem location?_inBuiltin (failure : Failure) (name : String) :
    (failure.inBuiltin name).location? = failure.location? := by
  obtain ⟨cause, context⟩ := failure
  cases context <;> rfl

@[simp]
theorem builtin?_located (failure : Failure) (location : Location) :
    (failure.located location).builtin? = failure.builtin? := by
  obtain ⟨cause, context⟩ := failure
  cases context <;> rfl

end Failure

end PolicyBuiltins
