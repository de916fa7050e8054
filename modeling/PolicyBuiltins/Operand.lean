/-
# Operands

A built-in receives values and narrows each to what it needs.  Narrowing never
converts: a string of digits is not a number.  A failure cites the position of the
operand, counted from one.
-/

import PolicyBuiltins.Failure.Basic

namespace PolicyBuiltins.Operand

/-- The failure of an operand that is of none of the expected kinds. -/
def wrongKind (value : Value) (position : Nat) (expected : List Kind) : Failure :=
  { cause := .operandType position value.kind expected }

/-- The number that an operand has to be. -/
def number (value : Value) (position : Nat) : Except Failure Decimal :=
  match value with
  | .number decimal => .ok decimal
  | _ => .error (wrongKind value position [.number])

/-- The string that an operand has to be. -/
def string (value : Value) (position : Nat) : Except Failure String :=
  match value with
  | .string text => .ok text
  | _ => .error (wrongKind value position [.string])

/-- The integer that an operand has to be.  It has to fit a signed 64-bit word. -/
def integer (value : Value) (position : Nat) : Except Failure Int :=
  match value.asNumber?.bind Decimal.toWord? with
  | some number => .ok number
  | none => .error (wrongKind value position [.integer])

/-- The items of the array that an operand has to be. -/
def array (value : Value) (position : Nat) : Except Failure (List Value) :=
  match value with
  | .array items => .ok items
  | _ => .error (wrongKind value position [.array])

/-- The members of the set that an operand has to be. -/
def set (value : Value) (position : Nat) : Except Failure (List Value) :=
  match value with
  | .set members => .ok members
  | _ => .error (wrongKind value position [.set])

/-- The strings that the items of an array have to be, the first of them being
item number `index`. -/
def stringItems (position : Nat) : (index : Nat) → List Value → Except Failure (List String)
  | _, [] => .ok []
  | index, .string text :: items =>
    (stringItems position (index + 1) items).map (text :: ·)
  | index, item :: _ =>
    .error { cause := .operandElement position .array item.kind (.index index) .string }

/-- The strings that the members of a set have to be, in ascending order.  Of
several members that are no strings the one with the least rendering is cited. -/
def stringMembers (position : Nat) (members : List Value) : Except Failure (List String) :=
  let distinct := Value.distinct members
  let offending := distinct.filter (·.asString?.isNone)
  match Text.sortedByText (offending.map fun member => (member.render, member)) with
  | (rendering, member) :: _ =>
    .error
      { cause := .operandElement position .set member.kind
          (.member (String.ofList rendering)) .string }
  | [] =>
    let texts := (distinct.filterMap Value.asString?).map String.toList
    .ok ((Text.sorted texts).map String.ofList)

/-- The strings of an array, in its order, or of a set, in ascending order. -/
def strings (value : Value) (position : Nat) : Except Failure (List String) :=
  match value with
  | .array items => stringItems position 0 items
  | .set members => stringMembers position members
  | _ => .error (wrongKind value position [.set, .array])

end PolicyBuiltins.Operand
