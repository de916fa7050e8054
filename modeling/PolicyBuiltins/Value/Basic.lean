/-
# Policy values

A value is a scalar, an array, an object or a set.  Sets and objects are given by a
listing of their members or entries.  Neither the order of a listing nor
repetition in it means anything: a member may be listed twice, and of several
entries with equal keys the last one counts.  `Value.equal` and `Value.render`
look at nothing else, so two listings of one collection cannot be told apart.
-/

import PolicyBuiltins.Decimal.Basic
import PolicyBuiltins.Value.Kind

namespace PolicyBuiltins

/-- A value of policy data. -/
inductive Value where
  | null
  | bool (truth : Bool)
  | number (decimal : Decimal)
  | string (text : String)
  | array (items : List Value)
  | object (entries : List (Value × Value))
  | set (members : List Value)

namespace Value

instance : Inhabited Value := ⟨.null⟩

/-- The kind of a value. -/
def kind : Value → Kind
  | .null => .null
  | .bool _ => .boolean
  | .number _ => .number
  | .string _ => .string
  | .array _ => .array
  | .object _ => .object
  | .set _ => .set

/-- The truth value of a boolean. -/
def asBool? : Value → Option Bool
  | .bool truth => some truth
  | _ => none

/-- The decimal of a number. -/
def asNumber? : Value → Option Decimal
  | .number decimal => some decimal
  | _ => none

/-- The text of a string. -/
def asString? : Value → Option String
  | .string text => some text
  | _ => none

/-- The string of a list of characters. -/
def ofChars (text : List Char) : Value :=
  .string (String.ofList text)

/-- The number of an integer. -/
def ofInt (number : Int) : Value :=
  .number (Decimal.ofInt number)

end Value

end PolicyBuiltins
