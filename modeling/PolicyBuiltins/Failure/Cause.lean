/-
# Causes of failure

A cause says what went wrong, with the data that a reader of the message needs.
`Cause.message` is the only place where a cause is put into words.
-/

import PolicyBuiltins.Text.Quoted
import PolicyBuiltins.Value.Kind

namespace PolicyBuiltins

/-- Which element of a collection is meant: by its index in an array, or by the
rendering of a member of a set. -/
inductive ElementKey where
  | index (position : Nat)
  | member (rendering : String)
deriving DecidableEq, Repr

/-- The words that point to an element. -/
def ElementKey.text : ElementKey → String
  | .index position => "at index " ++ toString position
  | .member rendering => "member " ++ rendering

/-- What went wrong.  Operand positions count from one. -/
inductive Cause where
  /-- An operand is of none of the kinds that are accepted. -/
  | operandType (position : Nat) (actual : Kind) (expected : List Kind)
  /-- An operand is a collection as required, but one of its elements is of
  another kind than required. -/
  | operandElement (position : Nat) (container element : Kind) (key : ElementKey)
      (expected : Kind)
  /-- An operand is none of the values that are accepted. -/
  | operandEnum (position : Nat) (legal : List String)
  /-- An index lies outside a text of the given length. -/
  | indexOutOfBounds (index : Int) (length : Nat)
  /-- A template and its arguments do not agree. -/
  | format (text : String)
  /-- A built-in was called with another count of arguments than it takes. -/
  | arityMismatch (expected actual : Nat)
  /-- There is no built-in of this name. -/
  | unknownBuiltin (name : String)
  /-- There is a built-in of this name already. -/
  | duplicateBuiltin (name : String)
  /-- A built-in was to take a count of arguments outside the accepted range. -/
  | invalidArity (name : String) (arity max : Nat)
  /-- A text is no number literal. -/
  | invalidNumber (text : String)
deriving DecidableEq, Repr

namespace Cause

/-- A list in braces. -/
def braced (items : List String) : String :=
  "\x7b" ++ ", ".intercalate items ++ "\x7d"

/-- The words for what an operand may be. -/
def expectation : List Kind → String
  | [kind] => kind.name
  | kinds => "one of " ++ braced (kinds.map Kind.name)

/-- The words for a cause. -/
def message : Cause → String
  | operandType position actual expected =>
    "operand " ++ toString position ++ " must be " ++ expectation expected ++
      " but got " ++ actual.name
  | operandElement position container element key expected =>
    "operand " ++ toString position ++ " must be " ++ container.name ++ " of " ++
      expected.name ++ " but got " ++ container.name ++ " containing " ++ element.name ++
      " (" ++ key.text ++ ")"
  | operandEnum position legal =>
    "operand " ++ toString position ++ " must be one of " ++
      braced (legal.map Text.quotedString)
  | indexOutOfBounds index length =>
    "index out of bounds: " ++ toString index ++ " (length " ++ toString length ++ ")"
  | format text => "format error: " ++ text
  | arityMismatch expected actual =>
    "arity mismatch: expected " ++ toString expected ++ ", got " ++ toString actual
  | unknownBuiltin name => "unknown builtin: " ++ name
  | duplicateBuiltin name => "duplicate builtin: " ++ name
  | invalidArity name arity max =>
    "invalid arity " ++ toString arity ++ " for builtin " ++ name ++ " (must be 1..=" ++
      toString max ++ ")"
  | invalidNumber text => "invalid number: " ++ Text.quotedString text

/-- The position of the operand that a cause is about. -/
def position? : Cause → Option Nat
  | operandType position _ _ => some position
  | operandElement position _ _ _ _ => some position
  | operandEnum position _ => some position
  | _ => none

end Cause

end PolicyBuiltins
