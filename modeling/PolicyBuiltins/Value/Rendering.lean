/-
# The canonical rendering of values

Strings are quoted.  The members of a set and the entries of an object are written
once each, in ascending order of what is written, so the order of a listing leaves
no trace.  Braces enclose both kinds of collection; without members the set is
`set()` and the object `{}`.
-/

import PolicyBuiltins.Decimal.Notation
import PolicyBuiltins.Text.Quoted
import PolicyBuiltins.Text.Sorting
import PolicyBuiltins.Value.Equality

namespace PolicyBuiltins.Value

/-- Texts between an opening and a closing character, commas between them. -/
def enclosed (opening closing : Char) (texts : List (List Char)) : List Char :=
  opening :: [',', ' '].intercalate texts ++ [closing]

mutual

/-- The canonical rendering of a value. -/
def render : Value → List Char
  | .null => "null".toList
  | .bool truth => (if truth then "true" else "false").toList
  | .number decimal => decimal.text
  | .string text => Text.quoted text.toList
  | .array items => enclosed '[' ']' (renderItems items)
  | .object entries =>
    enclosed '\x7b' '\x7d' (Text.sorted (keepFlagged (finality entries) (renderEntries entries)))
  | .set [] => "set()".toList
  | .set (first :: others) =>
    enclosed '\x7b' '\x7d'
      (Text.sorted
        (keepFlagged (newness (first :: others)) (renderItems (first :: others))))

/-- The renderings of the values of a list. -/
def renderItems : List Value → List (List Char)
  | [] => []
  | value :: values => value.render :: renderItems values

/-- The renderings of entries: key and value with a colon between them. -/
def renderEntries : List (Value × Value) → List (List Char)
  | [] => []
  | (key, value) :: entries =>
    (key.render ++ ':' :: ' ' :: value.render) :: renderEntries entries

end

theorem render_null : render .null = "null".toList := rfl

theorem render_bool (truth : Bool) :
    render (.bool truth) = (if truth then "true" else "false").toList := rfl

theorem render_number (decimal : Decimal) : render (.number decimal) = decimal.text := rfl

theorem render_string (text : String) :
    render (.string text) = Text.quoted text.toList := rfl

theorem render_empty_set : render (.set []) = "set()".toList := rfl

theorem renderItems_eq_map (values : List Value) : renderItems values = values.map render := by
  induction values with
  | nil => rfl
  | cons value values ih => rw [renderItems, ih, List.map_cons]

theorem renderEntries_eq_map (entries : List (Value × Value)) :
    renderEntries entries =
      entries.map fun entry => entry.1.render ++ ':' :: ' ' :: entry.2.render := by
  induction entries with
  | nil => rfl
  | cons entry entries ih => rw [renderEntries, ih, List.map_cons]

instance : ToString Value := ⟨fun value => String.ofList value.render⟩

/-- The text of a value inside formatted output: a string is its own text, and any
other value its rendering. -/
def plainText : Value → List Char
  | .string text => text.toList
  | other => other.render

/-- The distinct members of a listing, in the order of the canonical rendering. -/
def sortedMembers (members : List Value) : List Value :=
  (Text.sortedByText ((distinct members).map fun member => (member.render, member))).map
    Prod.snd

/-- The entries of a listing that count, in the order of the canonical rendering. -/
def sortedEntries (entries : List (Value × Value)) : List (Value × Value) :=
  let counting := lastEntries entries
  (Text.sortedByText ((renderEntries counting).zip counting)).map Prod.snd

/-- The members of a collection as a bare listing: brackets around an array, braces
around anything else, an empty set included.  A scalar has none. -/
def listing? : Value → Option (List Char)
  | .array items => some (enclosed '[' ']' (renderItems items))
  | .object entries => some (enclosed '\x7b' '\x7d' (renderEntries (sortedEntries entries)))
  | .set members => some (enclosed '\x7b' '\x7d' (renderItems (sortedMembers members)))
  | _ => none

end PolicyBuiltins.Value
