/-
# The string built-ins

Each body narrows its operands in the order of their positions and then hands them
to a function on texts.  Positions and lengths count characters.  `contains`,
`startswith` and `endswith` are predicates: they have no answer where they do not
hold.
-/

import PolicyBuiltins.Catalogue.Builtin
import PolicyBuiltins.Operand
import PolicyBuiltins.Strings.Slice
import PolicyBuiltins.Template.Formatting
import PolicyBuiltins.Text.Casing
import PolicyBuiltins.Text.Searching
import PolicyBuiltins.Text.Trimming

namespace PolicyBuiltins.Strings

/-- The string operand at a position, as characters. -/
def textOperand (invocation : Invocation) (position : Nat) : Except Failure (List Char) :=
  String.toList <$> Operand.string (invocation.argument position) position

/-- The radixes that integers can be formatted in. -/
def formatBases : List Nat := [2, 8, 10, 16]

/-- `format_int(number, base)`: the numeral of a number without its fractional
part. -/
def formatInt : Body := fun invocation => do
  let number ← Operand.number (invocation.argument 1) 1
  let base ← Operand.number (invocation.argument 2) 2
  match formatBases.find? fun (radix : Nat) => base.toWord? == some (radix : Int) with
  | some radix => return .ofChars (Numeral.ofInt radix number.truncate)
  | none => throw { cause := .operandEnum 2 (formatBases.map toString) }

/-- `concat(separator, parts)`: the strings of an array or set with a separator
between them. -/
def concat : Body := fun invocation => do
  let separator ← textOperand invocation 1
  let parts ← Operand.strings (invocation.argument 2) 2
  return .ofChars (separator.intercalate (parts.map String.toList))

/-- `index_of(text, pattern)`: the position of the first occurrence, or -1. -/
def indexOf : Body := fun invocation => do
  let text ← textOperand invocation 1
  let pattern ← textOperand invocation 2
  let index : Int := match Text.indexOf? pattern text with
    | some index => index
    | none => -1
  return .value (Value.ofInt index)

/-- `substring(text, start, length)`: a slice. -/
def substring : Body := fun invocation => do
  let text ← textOperand invocation 1
  let start ← Operand.integer (invocation.argument 2) 2
  let length ← Operand.integer (invocation.argument 3) 3
  return .ofChars (← slice invocation.settings.ranges text start length)

/-- The body that answers whether a relation holds between two texts. -/
def predicate (holds : List Char → List Char → Bool) : Body := fun invocation => do
  let text ← textOperand invocation 1
  let pattern ← textOperand invocation 2
  return .when (holds pattern text)

/-- The body that maps one text. -/
def unary (map : List Char → List Char) : Body := fun invocation => do
  let text ← textOperand invocation 1
  return .ofChars (map text)

/-- The body that maps one text as a second one says. -/
def binary (map : List Char → List Char → List Char) : Body := fun invocation => do
  let text ← textOperand invocation 1
  let second ← textOperand invocation 2
  return .ofChars (map second text)

/-- `split(text, delimiter)`: the fields of a text. -/
def split : Body := fun invocation => do
  let text ← textOperand invocation 1
  let delimiter ← textOperand invocation 2
  return .value (.array ((Text.fields delimiter text).map Value.ofChars))

/-- `replace(text, old, new)`: the text with every occurrence replaced. -/
def replace : Body := fun invocation => do
  let text ← textOperand invocation 1
  let old ← textOperand invocation 2
  let new ← textOperand invocation 3
  return .ofChars (Text.replace old new text)

/-- `sprintf(template, arguments)`: the text of a template. -/
def sprintf : Body := fun invocation => do
  let template ← textOperand invocation 1
  let arguments ← Operand.array (invocation.argument 2) 2
  return .ofChars
    (← Template.format invocation.settings.mismatches template arguments)

/-- Every string built-in. -/
def builtins : List Builtin :=
  [⟨"format_int", 2, formatInt⟩,
   ⟨"concat", 2, concat⟩,
   ⟨"index_of", 2, indexOf⟩,
   ⟨"substring", 3, substring⟩,
   ⟨"contains", 2, predicate Text.contains⟩,
   ⟨"startswith", 2, predicate List.isPrefixOf⟩,
   ⟨"endswith", 2, predicate List.isSuffixOf⟩,
   ⟨"upper", 1, unary Text.upper⟩,
   ⟨"lower", 1, unary Text.lower⟩,
   ⟨"split", 2, split⟩,
   ⟨"replace", 3, replace⟩,
   ⟨"trim", 2, binary fun cutset => Text.trim cutset.contains⟩,
   ⟨"trim_left", 2, binary fun cutset => Text.trimLeft cutset.contains⟩,
   ⟨"trim_right", 2, binary fun cutset => Text.trimRight cutset.contains⟩,
   ⟨"trim_prefix", 2, binary Text.dropStart⟩,
   ⟨"trim_suffix", 2, binary Text.dropEnding⟩,
   ⟨"trim_space", 1, unary Text.trimSpace⟩,
   ⟨"sprintf", 2, sprintf⟩]

end PolicyBuiltins.Strings
