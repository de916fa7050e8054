/-
# Layout of formatted text

The body of a directive may have a lead, which is a sign, a radix mark, or both.
Where the width asks for more, spaces fill the right side under the minus flag,
zeros go between lead and body under the zero flag where the body is a number, and
else spaces fill the left side.
-/

import PolicyBuiltins.Template.Directive

namespace PolicyBuiltins.Template

/-- The greatest width or precision that a directive may have. -/
def maxCount : Nat := 1000000

/-- A specification without a width that is too large, and with no digits asked
for by a precision that is too large. -/
def Spec.limited (spec : Spec) : Spec :=
  { spec with
    width := spec.width.filter (· ≤ maxCount)
    precision := spec.precision.map fun precision =>
      if precision ≤ maxCount then precision else 0 }

/-- A lead and a body brought to the width of a specification.  Zeros fill only
where `zeroFill` allows it. -/
def layOut (spec : Spec) (zeroFill : Bool) (lead body : List Char) : List Char :=
  let fill := spec.width.getD 0 - (lead.length + body.length)
  if spec.flags.minus then lead ++ body ++ List.replicate fill ' '
  else if spec.flags.zero && zeroFill then lead ++ List.replicate fill '0' ++ body
  else List.replicate fill ' ' ++ lead ++ body

/-- A text brought to the width of a specification; zeros never fill it. -/
def layOutText (spec : Spec) (text : List Char) : List Char :=
  layOut spec false [] text

/-- A text cut down to the precision of a specification. -/
def cutToPrecision (spec : Spec) (text : List Char) : List Char :=
  match spec.precision with
  | some precision => text.take precision
  | none => text

/-- The sign in front of a number. -/
def signOf (negative : Bool) (flags : Flags) : List Char :=
  if negative then ['-']
  else if flags.plus then ['+']
  else if flags.space then [' ']
  else []

end PolicyBuiltins.Template
