/-
# Number literals

A literal has an optional sign, digits with at most one point among them, and an
optional exponent behind `e` or `E`; white space around it is ignored.  Reading
goes in two steps.  `Literal.ofText?` recognizes the shape of the text alone, and
`Literal.reading` forms the number and applies the limits.

The limits come from the words that hold a scale.  The exponent, and the scale
that it and the fraction digits give, must fit a signed 64-bit word; a literal
where they do not is refused.  After the number is brought to normal form its
scale may be at most `maxScale` in magnitude.  Two steps on the way have no such
refusal and may leave the words: the normal form may have a scale below the least
word, and the least word has no magnitude among the words.
-/

import PolicyBuiltins.Decimal.Basic
import PolicyBuiltins.Numeral.Basic
import PolicyBuiltins.Text.Trimming

namespace PolicyBuiltins.Decimal

/-- The parts of a number literal. -/
structure Literal where
  negative : Bool
  whole : List Char
  fraction : List Char
  exponent : Int
deriving DecidableEq, Repr

/-- The greatest magnitude of a scale that a literal may have. -/
def maxScale : Nat := 100000

/-- A sign that may stand in front of digits: whether it is a minus, and what
follows it. -/
def leadingSign : List Char → Bool × List Char
  | '-' :: rest => (true, rest)
  | '+' :: rest => (false, rest)
  | text => (false, text)

/-- The text before and behind the first character that satisfies a test. -/
def splitAtFirst (test : Char → Bool) (text : List Char) :
    List Char × Option (List Char) :=
  match text.dropWhile (!test ·) with
  | [] => (text, none)
  | _ :: behind => (text.takeWhile (!test ·), some behind)

/-- The integer of an exponent: digits behind an optional sign. -/
def exponentOf? (text : List Char) : Option Int :=
  let (negative, digits) := leadingSign text
  if digits ≠ [] ∧ digits.all Char.isDigit then
    let magnitude := Numeral.value 10 digits
    some (if negative then -magnitude else magnitude)
  else none

namespace Literal

/-- The literal that a text without surrounding white space writes. -/
def ofText? (text : List Char) : Option Literal := do
  let (mantissa, exponentText) := splitAtFirst (fun c => c == 'e' || c == 'E') text
  let exponent ← match exponentText with
    | none => some 0
    | some digits => exponentOf? digits
  let (negative, unsigned) := leadingSign mantissa
  let (whole, fractionText) := splitAtFirst (· == '.') unsigned
  let fraction := fractionText.getD []
  guard (whole ++ fraction ≠ [] ∧ (whole ++ fraction).all Char.isDigit)
  return { negative, whole, fraction, exponent }

/-- The scale that the fraction digits and the exponent of a literal give its
digits. -/
def scale (literal : Literal) : Int :=
  literal.fraction.length - literal.exponent

/-- The digits of a literal as an integer. -/
def digits (literal : Literal) : Int :=
  let magnitude := Numeral.value 10 (literal.whole ++ literal.fraction)
  if literal.negative then -magnitude else magnitude

end Literal

/-- What reading a literal comes to: its number, a refusal, or a step that leaves the
words. -/
inductive Reading where
  | number (number : Decimal)
  | refused
  | overflow
deriving DecidableEq

/-- The limit on the scale of a number, whose magnitude is taken in words. -/
def Reading.limit (number : Decimal) : Reading :=
  match word? number.scale.natAbs with
  | some magnitude => if magnitude ≤ Int64.ofNat maxScale then .number number else .refused
  | none => .overflow

/-- The number of a literal, if all limits are kept and no step leaves the words. -/
def Literal.reading (literal : Literal) : Reading :=
  match word? literal.exponent, word? literal.scale with
  | some _, some scale =>
    match ofWordScale? literal.digits scale with
    | some number => .limit number
    | none => .overflow
  | _, _ => .refused

/-- The number that a text writes as a literal, white space around it ignored. -/
def reading (text : List Char) : Reading :=
  match Literal.ofText? (Text.trimSpace text) with
  | some literal => literal.reading
  | none => .refused

end PolicyBuiltins.Decimal
