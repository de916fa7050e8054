/-
# Layers around a failure

On its way out a failure passes layers, the innermost first: a built-in that says where it
failed, the call that names the built-in, the caller who knows the place.  A layer says one
thing about where the failure arose, and the same thing may be said more than once.
-/

import PolicyBuiltins.Failure.Basic

namespace PolicyBuiltins.Failure

/-- What one layer says about a failure that passes it. -/
inductive Layer where
  | builtin (name : String)
  | place (location : Location)
deriving DecidableEq, Repr

/-- The built-in that a layer names. -/
def Layer.name? : Layer → Option String
  | .builtin name => some name
  | .place _ => none

/-- The place that a layer gives. -/
def Layer.location? : Layer → Option Location
  | .builtin _ => none
  | .place location => some location

/-- The failure outside of a layer. -/
def outside (failure : Failure) : Layer → Failure
  | .builtin name => failure.inBuiltin name
  | .place location => failure.located location

/-- The failure outside of several layers, the innermost first. -/
def through (failure : Failure) (layers : List Layer) : Failure :=
  layers.foldl outside failure

end PolicyBuiltins.Failure
