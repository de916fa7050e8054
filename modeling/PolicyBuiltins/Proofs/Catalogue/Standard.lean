/-
# Calls of the standard built-ins

A draft takes in any table of built-ins with proper counts of arguments and distinct
free names.  The standard table is one, so its draft exists, and a call by one of its
names runs the body that the table has for it.
-/

import Mathlib.Data.List.Nodup
import PolicyBuiltins.Catalogue.Standard

namespace PolicyBuiltins

/-! ## Drafts -/

namespace Draft

theorem register_eq_ok {draft : Draft} {builtin : Builtin} (least : 1 ≤ builtin.arity)
    (greatest : builtin.arity ≤ maxArity) (free : draft.lookup builtin.name = none) :
    draft.register builtin = .ok { draft with builtins := builtin :: draft.builtins } := by
  rw [register, if_neg (by omega), free]
  rfl

theorem lookup_cons_of_ne {draft : Draft} {builtin : Builtin} {name : String}
    (other : builtin.name ≠ name) :
    lookup { draft with builtins := builtin :: draft.builtins } name = draft.lookup name := by
  rw [lookup, List.find?_cons, beq_false_of_ne other]
  rfl

/-- A table of built-ins with distinct free names is taken in as a whole, the last one
in front. -/
theorem registerAll_eq_ok {builtins : List Builtin} {draft : Draft}
    (arities : ∀ builtin ∈ builtins, 1 ≤ builtin.arity ∧ builtin.arity ≤ maxArity)
    (distinct : (builtins.map Builtin.name).Nodup)
    (free : ∀ builtin ∈ builtins, draft.lookup builtin.name = none) :
    draft.registerAll builtins =
      .ok { draft with builtins := builtins.reverse ++ draft.builtins } := by
  induction builtins generalizing draft with
  | nil => rfl
  | cons builtin builtins ih =>
    obtain ⟨⟨least, greatest⟩, arities⟩ := List.forall_mem_cons.1 arities
    obtain ⟨own_free, free⟩ := List.forall_mem_cons.1 free
    obtain ⟨own_name, distinct⟩ := List.nodup_cons.1 distinct
    have still_free : ∀ other ∈ builtins,
        lookup { draft with builtins := builtin :: draft.builtins } other.name = none := by
      intro other inside
      have differs : builtin.name ≠ other.name := by
        intro same
        rw [same] at own_name
        exact own_name (List.mem_map_of_mem inside)
      rw [lookup_cons_of_ne differs]
      exact free other inside
    have taken := ih arities distinct still_free
    rw [registerAll] at taken
    rw [registerAll, List.foldlM_cons, register_eq_ok least greatest own_free]
    show List.foldlM register _ builtins = _
    rw [taken, List.reverse_cons, List.append_assoc]
    rfl

end Draft

namespace Strings

theorem nodup_names : (builtins.map Builtin.name).Nodup := by
  decide

theorem arity_bounds :
    ∀ builtin ∈ builtins, 1 ≤ builtin.arity ∧ builtin.arity ≤ maxArity := by
  have arities : ∀ arity ∈ builtins.map Builtin.arity, 1 ≤ arity ∧ arity ≤ maxArity := by
    decide
  intro builtin inside
  exact arities _ (List.mem_map_of_mem inside)

end Strings

/-- The standard table has no clash. -/
theorem Draft.standard?_eq_ok :
    Draft.standard? = .ok { builtins := Strings.builtins.reverse } := by
  have taken : Draft.empty.registerAll Strings.builtins =
      .ok { Draft.empty with builtins := Strings.builtins.reverse ++ Draft.empty.builtins } :=
    registerAll_eq_ok Strings.arity_bounds Strings.nodup_names fun _ _ => rfl
  rw [Draft.standard?, taken, Draft.empty, List.append_nil]

/-! ## Calls -/

theorem find?_name_eq_some {builtins : List Builtin}
    (distinct : (builtins.map Builtin.name).Nodup) {builtin : Builtin}
    (inside : builtin ∈ builtins) :
    builtins.find? (·.name == builtin.name) = some builtin := by
  induction builtins with
  | nil => cases inside
  | cons first builtins ih =>
    obtain ⟨own_name, distinct⟩ := List.nodup_cons.1 distinct
    rcases List.mem_cons.1 inside with rfl | inside
    · rw [List.find?_cons, beq_self_eq_true]
    · have differs : first.name ≠ builtin.name := by
        intro same
        rw [same] at own_name
        exact own_name (List.mem_map_of_mem inside)
      rw [List.find?_cons, beq_false_of_ne differs]
      exact ih distinct inside

/-- Distinct names find what they belong to. -/
theorem Catalogue.lookup_eq_some_iff {catalogue : Catalogue}
    (distinct : (catalogue.builtins.map Builtin.name).Nodup) {name : String}
    {builtin : Builtin} :
    catalogue.lookup name = some builtin ↔
      builtin ∈ catalogue.builtins ∧ builtin.name = name := by
  constructor
  · intro found
    have named : (builtin.name == name) = true :=
      List.find?_some (p := fun other : Builtin => other.name == name) found
    exact ⟨List.mem_of_find?_eq_some found, beq_iff_eq.1 named⟩
  · rintro ⟨inside, rfl⟩
    exact find?_name_eq_some distinct inside

/-- The catalogue of the standard built-ins under some settings. -/
def Catalogue.standard (settings : Settings) : Catalogue where
  builtins := Strings.builtins.reverse
  settings := settings

theorem Catalogue.nodup_names_standard :
    (Strings.builtins.reverse.map Builtin.name).Nodup := by
  rw [List.map_reverse, List.nodup_reverse]
  exact Strings.nodup_names

theorem Catalogue.lookup_standard_eq_some_iff {settings : Settings} {name : String}
    {builtin : Builtin} :
    (standard settings).lookup name = some builtin ↔
      builtin ∈ Strings.builtins ∧ builtin.name = name := by
  rw [← List.mem_reverse]
  exact lookup_eq_some_iff nodup_names_standard

theorem Catalogue.lookup_standard {settings : Settings} {builtin : Builtin}
    (inside : builtin ∈ Strings.builtins) :
    (standard settings).lookup builtin.name = some builtin :=
  lookup_standard_eq_some_iff.2 ⟨inside, rfl⟩

/-- A standard built-in with the right count of arguments answers and fails as its body
does. -/
theorem Catalogue.call_standard {settings : Settings} {builtin : Builtin}
    (inside : builtin ∈ Strings.builtins) {arguments : List Value}
    (served : arguments.length = builtin.arity) :
    (standard settings).call builtin.name arguments =
      (Outcome.ofResult (builtin.body { arguments, settings })).mapFailure
        (·.inBuiltin builtin.name) := by
  simp only [call, lookup_standard inside, if_pos served, invoke]
  rfl

/-- A call of a built-in that maps one text gives the image of a string. -/
theorem Strings.call_unary (settings : Settings) {name : String}
    (map : List Char → List Char) (inside : ⟨name, 1, unary map⟩ ∈ builtins) (text : String) :
    (Catalogue.standard settings).call name [.string text] =
      .defined (.ofChars (map text.toList)) :=
  Catalogue.call_standard inside rfl

/-- A call of a built-in that maps one text as a second one says gives the image of two
strings. -/
theorem Strings.call_binary (settings : Settings) {name : String}
    (map : List Char → List Char → List Char) (inside : ⟨name, 2, binary map⟩ ∈ builtins)
    (text second : String) :
    (Catalogue.standard settings).call name [.string text, .string second] =
      .defined (.ofChars (map second.toList text.toList)) :=
  Catalogue.call_standard inside rfl

/-- A call with the right count of arguments fails as the body does, and the failure
names the built-in. -/
theorem Catalogue.call_eq_failed_iff {catalogue : Catalogue} {name : String}
    {builtin : Builtin} {arguments : List Value} {failure : Failure}
    (found : catalogue.lookup name = some builtin)
    (served : arguments.length = builtin.arity) :
    catalogue.call name arguments = .failed failure ↔
      ∃ inner, builtin.body { arguments, settings := catalogue.settings } = .error inner ∧
        failure = inner.inBuiltin name := by
  simp only [call, found, if_pos served, invoke]
  cases builtin.body { arguments, settings := catalogue.settings } with
  | error inner => simp [Outcome.ofResult, Outcome.mapFailure, eq_comm]
  | ok answer =>
    cases answer <;> simp [Outcome.ofResult, Outcome.mapFailure]

end PolicyBuiltins
