/-
# Kinds of values

The kinds that operand errors and format mismatches speak of.  Every value has one
of them; `integer` is not the kind of any value, but an operand may ask for it.
-/

namespace PolicyBuiltins

/-- What a value is, or what an operand has to be. -/
inductive Kind where
  | null
  | boolean
  | number
  | integer
  | string
  | array
  | object
  | set
deriving DecidableEq, Repr

/-- The name of a kind in messages. -/
def Kind.name : Kind → String
  | .null => "null"
  | .boolean => "boolean"
  | .number => "number"
  | .integer => "integer"
  | .string => "string"
  | .array => "array"
  | .object => "object"
  | .set => "set"

end PolicyBuiltins
