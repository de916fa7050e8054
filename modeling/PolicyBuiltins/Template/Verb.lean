/-
# Verbs

A verb says how its argument is written, and which arguments it accepts.
`Verb.render` is the text of an accepted argument and nothing for any other.  The
specification that it follows is already limited.
-/

import PolicyBuiltins.Template.Layout
import PolicyBuiltins.Template.Scientific
import PolicyBuiltins.Value.Rendering

namespace PolicyBuiltins.Template

/-- The radixes of the integer verbs; hexadecimal letters have either case. -/
inductive Radix where
  | binary
  | octal
  | decimal
  | hexadecimal (upper : Bool)
deriving DecidableEq, Repr

namespace Radix

/-- The base of a radix. -/
def base : Radix → Nat
  | .binary => 2
  | .octal => 8
  | .decimal => 10
  | .hexadecimal _ => 16

/-- The mark of a radix in front of its digits. -/
def mark : Radix → List Char
  | .binary => "0b".toList
  | .octal => "0".toList
  | .decimal => []
  | .hexadecimal false => "0x".toList
  | .hexadecimal true => "0X".toList

/-- Digits in the case of a radix. -/
def inCase (radix : Radix) (digits : List Char) : List Char :=
  match radix with
  | .hexadecimal true => digits.map Char.toUpper
  | _ => digits

/-- The mark of a radix where the sharp flag asks for it. -/
def lead (radix : Radix) (flags : Flags) : List Char :=
  if flags.sharp then radix.mark else []

end Radix

/-- How a directive writes its argument. -/
inductive Verb where
  /-- Any value as plain text. -/
  | text
  /-- Any value as plain text, quoted. -/
  | quoted
  /-- A boolean. -/
  | truth
  /-- An integer in a radix; in hexadecimal also the bytes of a string. -/
  | integer (radix : Radix)
  /-- The character of a code point. -/
  | character
  /-- A number in plain notation. -/
  | fixed
  /-- A number in the exponent form. -/
  | exponent (upper : Bool)
  /-- A number in the general form. -/
  | general (upper : Bool)
deriving DecidableEq, Repr

/-- The verb that a character names. -/
def Verb.ofChar? : Char → Option Verb
  | 'v' | 's' => some .text
  | 'q' => some .quoted
  | 't' => some .truth
  | 'd' => some (.integer .decimal)
  | 'b' => some (.integer .binary)
  | 'o' => some (.integer .octal)
  | 'x' => some (.integer (.hexadecimal false))
  | 'X' => some (.integer (.hexadecimal true))
  | 'c' => some .character
  | 'f' | 'F' => some .fixed
  | 'e' => some (.exponent false)
  | 'E' => some (.exponent true)
  | 'g' => some (.general false)
  | 'G' => some (.general true)
  | _ => none

/-- The fraction digits of a floating verb whose directive gives no precision. -/
def defaultPrecision : Nat := 6

/-- An integer in a radix.  A precision is the least count of digits, and rules
zeros out as fill. -/
def integerText (spec : Spec) (radix : Radix) (number : Int) : List Char :=
  let digits := Numeral.padded (spec.precision.getD 0)
    (radix.inCase (Numeral.ofNat radix.base number.natAbs))
  layOut spec spec.precision.isNone
    (signOf (number < 0) spec.flags ++ radix.lead spec.flags) digits

/-- The bytes of a string, two hexadecimal digits each. -/
def bytesText (spec : Spec) (upper : Bool) (text : String) : List Char :=
  let radix := Radix.hexadecimal upper
  let digits := text.toUTF8.toList.flatMap fun byte =>
    Numeral.padded 2 (Numeral.ofNat 16 byte.toNat)
  layOutText spec (radix.lead spec.flags ++ radix.inCase digits)

/-- The character of a code point; a number that is none shows as the replacement
character. -/
def characterOf (code : Int) : Char :=
  if 0 ≤ code ∧ code.toNat.isValidChar then Char.ofNat code.toNat else '\uFFFD'

/-- A number by its body without a sign. -/
def floatText (spec : Spec) (number : Decimal) (body : List Char) : List Char :=
  layOut spec true (signOf number.isNegative spec.flags) body

/-- The text of an argument that a verb accepts. -/
def Verb.render (verb : Verb) (spec : Spec) (argument : Value) : Option (List Char) :=
  match verb with
  | .text => some (layOutText spec (cutToPrecision spec argument.plainText))
  | .quoted =>
    some (layOutText spec (Text.quoted (cutToPrecision spec argument.plainText)))
  | .truth => argument.asBool?.map fun truth =>
    layOutText spec (if truth then "true" else "false").toList
  | .integer radix =>
    match argument, radix with
    | .number number, _ =>
      if number.isInteger then some (integerText spec radix number.truncate) else none
    | .string content, .hexadecimal upper => some (bytesText spec upper content)
    | _, _ => none
  | .character => (argument.asNumber?.bind Decimal.toWord?).map fun code =>
    layOutText spec [characterOf code]
  | .fixed => argument.asNumber?.map fun number =>
    let places := spec.precision.getD defaultPrecision
    floatText spec number (Decimal.pointed (number.unitsAt places) places)
  | .exponent upper => argument.asNumber?.map fun number =>
    floatText spec number
      (exponentForm upper (spec.precision.getD defaultPrecision) (.nearest number))
  | .general upper => argument.asNumber?.map fun number =>
    floatText spec number (generalForm upper spec.precision (.nearest number))

end PolicyBuiltins.Template
