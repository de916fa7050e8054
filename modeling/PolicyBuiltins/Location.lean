/-
# Places in policy sources

A place has a row and a column, and a file name where one is known.  A located
value carries the place that it was written at; built-ins never see the place.
-/

import PolicyBuiltins.Value.Rendering

namespace PolicyBuiltins

/-- A place in a policy source. -/
structure Location where
  file : Option String
  row : Nat
  column : Nat
deriving DecidableEq, Repr

/-- The text of a place: file, row and column with colons between them, without
the file where there is none. -/
def Location.text (location : Location) : String :=
  let position := toString location.row ++ ":" ++ toString location.column
  match location.file with
  | some file => file ++ ":" ++ position
  | none => position

instance : ToString Location := ⟨Location.text⟩

/-- A value and the place that it was written at, if known. -/
structure Located where
  value : Value
  location : Option Location

instance : ToString Located := ⟨fun located => toString located.value⟩

end PolicyBuiltins
