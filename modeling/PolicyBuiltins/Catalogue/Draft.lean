/-
# Drafts of catalogues

A draft collects built-ins under distinct names before it is sealed.  A built-in is
taken in only with a count of arguments from one to `maxArity` and a name that is
still free; a refusal leaves the draft as it was.  Of two reasons for a refusal the
count of arguments is the one that is given.
-/

import PolicyBuiltins.Catalogue.Builtin

namespace PolicyBuiltins

/-- The greatest count of arguments that a built-in may take. -/
def maxArity : Nat := 8

/-- Built-ins under distinct names, the latest first, and the settings for them. -/
structure Draft where
  builtins : List Builtin := []
  settings : Settings := {}

namespace Draft

/-- The draft without built-ins, under the default settings. -/
def empty : Draft := {}

/-- The built-in of a name. -/
def lookup (draft : Draft) (name : String) : Option Builtin :=
  draft.builtins.find? (·.name == name)

/-- The number of built-ins. -/
def size (draft : Draft) : Nat :=
  draft.builtins.length

/-- The draft with a further built-in. -/
def register (draft : Draft) (builtin : Builtin) : Except Failure Draft :=
  if builtin.arity < 1 ∨ maxArity < builtin.arity then
    .error { cause := .invalidArity builtin.name builtin.arity maxArity }
  else if (draft.lookup builtin.name).isSome then
    .error { cause := .duplicateBuiltin builtin.name }
  else .ok { draft with builtins := builtin :: draft.builtins }

/-- The draft under other settings. -/
def withSettings (draft : Draft) (settings : Settings) : Draft :=
  { draft with settings }

end Draft

end PolicyBuiltins
