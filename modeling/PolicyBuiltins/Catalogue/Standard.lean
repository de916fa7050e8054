/-
# The standard catalogue

The standard draft holds the string built-ins.  They are registered one after the
other like any others, so a table with a clash in it would fail here.
-/

import PolicyBuiltins.Catalogue.Basic
import PolicyBuiltins.Strings.Builtins

namespace PolicyBuiltins

/-- The draft with several further built-ins, registered in their order. -/
def Draft.registerAll (draft : Draft) (builtins : List Builtin) : Except Failure Draft :=
  builtins.foldlM Draft.register draft

/-- The draft that holds every standard built-in. -/
def Draft.standard? : Except Failure Draft :=
  Draft.empty.registerAll Strings.builtins

end PolicyBuiltins
