/-
# Reading numbers

The reader of literals as a computation that fails.  The failure carries the text
as it was given, white space included.  A step that leaves the words is no failure
of the text: the computation stops there.
-/

import PolicyBuiltins.Decimal.Literal
import PolicyBuiltins.Failure.Basic

namespace PolicyBuiltins

/-- What ends a computation with words early: a failure, or a step that leaves the words. -/
inductive Stop where
  | failure (failure : Failure)
  | overflow
deriving DecidableEq

/-- The number that a string writes. -/
def Decimal.ofString (text : String) : Except Stop Decimal :=
  match Decimal.reading text.toList with
  | .number number => .ok number
  | .refused => .error (.failure { cause := .invalidNumber text })
  | .overflow => .error .overflow

end PolicyBuiltins
