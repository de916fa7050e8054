/-
# Answers and outcomes

A built-in that does not fail answers with a value or has no answer.  Having no
answer is not a failure: the rule that asked has no solution there.  The outcome
of a call adds failure as the third case.
-/

import PolicyBuiltins.Failure.Basic

namespace PolicyBuiltins

/-- What a built-in that does not fail says. -/
inductive Answer where
  | value (value : Value)
  | undefined

/-- The answer of a predicate: true where it holds, and none where it does not. -/
def Answer.when (holds : Bool) : Answer :=
  if holds then .value (.bool true) else .undefined

/-- The answer that is a text. -/
def Answer.ofChars (text : List Char) : Answer :=
  .value (Value.ofChars text)

/-- What a call comes to. -/
inductive Outcome where
  | defined (value : Value)
  | undefined
  | failed (failure : Failure)

namespace Outcome

/-- The outcome of a computation that answers or fails. -/
def ofResult : Except Failure Answer → Outcome
  | .ok (.value value) => defined value
  | .ok .undefined => undefined
  | .error failure => failed failure

/-- The outcome with its failure, if it has one, replaced by a function of it. -/
def mapFailure (change : Failure → Failure) : Outcome → Outcome
  | failed failure => failed (change failure)
  | defined value => defined value
  | undefined => undefined

/-- The outcome as a computation, absence standing for no answer. -/
def toResult : Outcome → Except Failure (Option Value)
  | defined value => .ok (some value)
  | undefined => .ok none
  | failed failure => .error failure

/-- The value of a defined outcome. -/
def value? : Outcome → Option Value
  | defined value => some value
  | _ => none

/-- The failure of a failed outcome. -/
def failure? : Outcome → Option Failure
  | failed failure => some failure
  | _ => none

/-- Whether there is a value. -/
def isDefined (outcome : Outcome) : Bool :=
  outcome.value?.isSome

/-- Whether there is a failure. -/
def isFailed (outcome : Outcome) : Bool :=
  outcome.failure?.isSome

/-- Whether there is no answer. -/
def isUndefined : Outcome → Bool
  | undefined => true
  | _ => false

end Outcome

end PolicyBuiltins
