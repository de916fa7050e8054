/-
# Catalogues

A catalogue is a sealed draft: built-ins are called by name and none is added.  A
call checks the count of arguments before the body runs.  Any failure from there on
names the built-in, and a call at a known place adds the place to every failure.
-/

import PolicyBuiltins.Catalogue.Draft

namespace PolicyBuiltins

/-- Built-ins that can be called, and the settings for them. -/
structure Catalogue where
  builtins : List Builtin
  settings : Settings

/-- The catalogue of a draft, to which nothing is added any more. -/
def Draft.seal (draft : Draft) : Catalogue where
  builtins := draft.builtins
  settings := draft.settings

namespace Catalogue

/-- The built-in of a name. -/
def lookup (catalogue : Catalogue) (name : String) : Option Builtin :=
  catalogue.builtins.find? (·.name == name)

/-- Whether there is a built-in of a name. -/
def contains (catalogue : Catalogue) (name : String) : Bool :=
  (catalogue.lookup name).isSome

/-- The number of built-ins. -/
def size (catalogue : Catalogue) : Nat :=
  catalogue.builtins.length

/-- The names of the built-ins in ascending order. -/
def names (catalogue : Catalogue) : List String :=
  (Text.sorted (catalogue.builtins.map fun builtin => builtin.name.toList)).map
    String.ofList

/-- The outcome of a built-in on arguments, whatever their count. -/
def invoke (catalogue : Catalogue) (builtin : Builtin) (arguments : List Value) : Outcome :=
  .ofResult (builtin.body { arguments, settings := catalogue.settings })

/-- The outcome of a call by name. -/
def call (catalogue : Catalogue) (name : String) (arguments : List Value) : Outcome :=
  match catalogue.lookup name with
  | none => .failed { cause := .unknownBuiltin name }
  | some builtin =>
    if arguments.length = builtin.arity then
      (catalogue.invoke builtin arguments).mapFailure (·.inBuiltin name)
    else
      .failed (Failure.inBuiltin
        { cause := .arityMismatch builtin.arity arguments.length } name)

/-- The outcome of a call on located values, from a place if one is known. -/
def callLocated (catalogue : Catalogue) (name : String) (arguments : List Located)
    (location : Option Location) : Outcome :=
  let outcome := catalogue.call name (arguments.map Located.value)
  match location with
  | some location => outcome.mapFailure (·.located location)
  | none => outcome

end Catalogue

end PolicyBuiltins
