/-
# Built-ins

A built-in has a name, takes a fixed count of arguments, and computes an answer or
fails.  Its body sees the arguments and the settings of the call, and nothing else.
-/

import PolicyBuiltins.Outcome
import PolicyBuiltins.Settings

namespace PolicyBuiltins

/-- The arguments and the settings of one call. -/
structure Invocation where
  arguments : List Value
  settings : Settings

/-- The argument at a position counted from one.  A position without an argument
reads as null. -/
def Invocation.argument (invocation : Invocation) : (position : Nat) → Value
  | 0 => .null
  | index + 1 => invocation.arguments.getD index .null

/-- What a built-in computes. -/
abbrev Body := Invocation → Except Failure Answer

/-- A named function of a fixed count of arguments. -/
structure Builtin where
  name : String
  arity : Nat
  body : Body

/-- The text that shows a built-in without its body. -/
def Builtin.summary (builtin : Builtin) : String :=
  "Builtin \x7b name: " ++ Text.quotedString builtin.name ++ ", arity: " ++
    toString builtin.arity ++ ", .. \x7d"

end PolicyBuiltins
