/-
# Dispatch

A call by name comes to one of five ends: the name is unknown, the count of arguments is
wrong, or the body answers with a value, has no answer, or fails.  `Dispatches` lists
them with the whole of the failure in each, and a call comes to exactly the end that it
gives.  It adds the name of the built-in to what a body fails with and keeps the cause and
the place; it changes nothing else about the body's result.

A call from a known place puts that place into every failure, also into those that arise
before a body runs, and leaves the other outcomes alone.  The places of the arguments are
never looked at.
-/

import PolicyBuiltins.Catalogue.Basic

namespace PolicyBuiltins

/-- What a call of a name with arguments comes to. -/
inductive Dispatches (catalogue : Catalogue) (name : String) (arguments : List Value) :
    Outcome → Prop
  | unknown (absent : catalogue.lookup name = none) :
      Dispatches catalogue name arguments
        (.failed { cause := .unknownBuiltin name, context := none })
  | miscounted {builtin : Builtin} (found : catalogue.lookup name = some builtin)
      (differs : arguments.length ≠ builtin.arity) :
      Dispatches catalogue name arguments
        (.failed
          { cause := .arityMismatch builtin.arity arguments.length
            context := some { builtin := some name, location := none } })
  | defined {builtin : Builtin} {value : Value}
      (found : catalogue.lookup name = some builtin)
      (served : arguments.length = builtin.arity)
      (ran : builtin.body { arguments, settings := catalogue.settings } = .ok (.value value)) :
      Dispatches catalogue name arguments (.defined value)
  | undefined {builtin : Builtin} (found : catalogue.lookup name = some builtin)
      (served : arguments.length = builtin.arity)
      (ran : builtin.body { arguments, settings := catalogue.settings } = .ok .undefined) :
      Dispatches catalogue name arguments .undefined
  | failed {builtin : Builtin} {inner : Failure}
      (found : catalogue.lookup name = some builtin)
      (served : arguments.length = builtin.arity)
      (ran : builtin.body { arguments, settings := catalogue.settings } = .error inner) :
      Dispatches catalogue name arguments
        (.failed
          { cause := inner.cause
            context := some { builtin := some name, location := inner.location? } })

/-- What an outcome is for a caller, whose place may be known. -/
inductive PlacedAt : (location? : Option Location) → Outcome → Outcome → Prop
  | unplaced (outcome : Outcome) : PlacedAt none outcome outcome
  | defined (location : Location) (value : Value) :
      PlacedAt (some location) (.defined value) (.defined value)
  | undefined (location : Location) : PlacedAt (some location) .undefined .undefined
  | failed (location : Location) (failure : Failure) :
      PlacedAt (some location) (.failed failure)
        (.failed
          { cause := failure.cause
            context := some { builtin := failure.builtin?, location := some location } })

/-! ## Failures with a context -/

namespace Failure

/-- Naming the built-in keeps the cause and the place. -/
theorem inBuiltin_eq (failure : Failure) (name : String) :
    failure.inBuiltin name =
      { cause := failure.cause
        context := some { builtin := some name, location := failure.location? } } := by
  obtain ⟨cause, context⟩ := failure
  cases context <;> rfl

/-- Giving the place keeps the cause and the built-in. -/
theorem located_eq (failure : Failure) (location : Location) :
    failure.located location =
      { cause := failure.cause
        context := some { builtin := failure.builtin?, location := some location } } := by
  obtain ⟨cause, context⟩ := failure
  cases context <;> rfl

end Failure

/-! ## Calls -/

namespace Catalogue

variable {catalogue : Catalogue} {name : String} {arguments : List Value}

theorem call_of_lookup_eq_none (absent : catalogue.lookup name = none) :
    catalogue.call name arguments = .failed { cause := .unknownBuiltin name } := by
  rw [call, absent]

theorem call_of_length_ne {builtin : Builtin} (found : catalogue.lookup name = some builtin)
    (differs : arguments.length ≠ builtin.arity) :
    catalogue.call name arguments =
      .failed
        { cause := .arityMismatch builtin.arity arguments.length
          context := some { builtin := some name } } := by
  simp only [call, found, if_neg differs]
  rfl

/-- With the right count of arguments a call is the body's result under the name. -/
theorem call_of_length_eq {builtin : Builtin} (found : catalogue.lookup name = some builtin)
    (served : arguments.length = builtin.arity) :
    catalogue.call name arguments =
      (catalogue.invoke builtin arguments).mapFailure (·.inBuiltin name) := by
  simp only [call, found, if_pos served]

/-- Every call comes to one of the ends. -/
theorem dispatches_call (catalogue : Catalogue) (name : String) (arguments : List Value) :
    Dispatches catalogue name arguments (catalogue.call name arguments) := by
  cases found : catalogue.lookup name with
  | none =>
    rw [call_of_lookup_eq_none found]
    exact .unknown found
  | some builtin =>
    by_cases served : arguments.length = builtin.arity
    · rw [call_of_length_eq found served, invoke]
      cases ran : builtin.body { arguments, settings := catalogue.settings } with
      | ok answer =>
        cases answer with
        | value value => exact .defined found served ran
        | undefined => exact .undefined found served ran
      | error inner =>
        show Dispatches catalogue name arguments (.failed (inner.inBuiltin name))
        rw [Failure.inBuiltin_eq]
        exact .failed found served ran
    · rw [call_of_length_ne found served]
      exact .miscounted found served

/-- No call comes to two ends. -/
theorem call_eq_of_dispatches {outcome : Outcome}
    (dispatched : Dispatches catalogue name arguments outcome) :
    catalogue.call name arguments = outcome := by
  cases dispatched with
  | unknown absent => exact call_of_lookup_eq_none absent
  | miscounted found differs => exact call_of_length_ne found differs
  | defined found served ran =>
    rw [call_of_length_eq found served, invoke, ran]
    rfl
  | undefined found served ran =>
    rw [call_of_length_eq found served, invoke, ran]
    rfl
  | failed found served ran =>
    rw [call_of_length_eq found served, invoke, ran, ← Failure.inBuiltin_eq]
    rfl

theorem call_eq_iff_dispatches {outcome : Outcome} :
    catalogue.call name arguments = outcome ↔ Dispatches catalogue name arguments outcome :=
  ⟨fun called => called ▸ dispatches_call catalogue name arguments, call_eq_of_dispatches⟩

/-- A located call is the call on the values, put at the place of the caller. -/
theorem callLocated_eq_iff_placedAt {located : List Located} {location? : Option Location}
    {outcome : Outcome} :
    catalogue.callLocated name located location? = outcome ↔
      PlacedAt location? (catalogue.call name (located.map Located.value)) outcome := by
  unfold callLocated
  generalize catalogue.call name (located.map Located.value) = plain
  cases location? with
  | none =>
    constructor
    · rintro rfl
      exact .unplaced plain
    · rintro ⟨⟩
      rfl
  | some location =>
    constructor
    · rintro rfl
      cases plain with
      | defined value => exact .defined location value
      | undefined => exact .undefined location
      | failed failure =>
        show PlacedAt (some location) (.failed failure) (.failed (failure.located location))
        rw [Failure.located_eq]
        exact .failed location failure
    · intro placed
      cases placed with
      | defined => rfl
      | undefined => rfl
      | failed _ failure => exact congrArg Outcome.failed (failure.located_eq location)

/-- The ways to run a built-in agree.  A call by name comes to the end that `Dispatches`
gives and to no other; with the right count of arguments it is the direct invocation,
named; with a wrong count it does not depend on the body or the settings at all.  A
located call is the call on the values, placed, wherever the arguments were written. -/
theorem call_refines_invoke (catalogue : Catalogue) (name : String) :
    (∀ arguments outcome, catalogue.call name arguments = outcome ↔
      Dispatches catalogue name arguments outcome) ∧
    (∀ builtin arguments, catalogue.lookup name = some builtin →
      (arguments.length = builtin.arity →
        catalogue.call name arguments =
          (catalogue.invoke builtin arguments).mapFailure (·.inBuiltin name)) ∧
      (arguments.length ≠ builtin.arity → ∀ (other : Catalogue) (body : Body),
        other.lookup name = some { builtin with body } →
          other.call name arguments = catalogue.call name arguments)) ∧
    (∀ located location? outcome, catalogue.callLocated name located location? = outcome ↔
      PlacedAt location? (catalogue.call name (located.map Located.value)) outcome) ∧
    ∀ located elsewhere location?, located.map Located.value = elsewhere.map Located.value →
      catalogue.callLocated name located location? =
        catalogue.callLocated name elsewhere location? := by
  refine ⟨fun _ _ => call_eq_iff_dispatches, ?_, fun _ _ _ => callLocated_eq_iff_placedAt, ?_⟩
  · intro builtin arguments found
    refine ⟨call_of_length_eq found, ?_⟩
    intro differs other body found'
    rw [call_of_length_ne found differs, call_of_length_ne found' differs]
  · intro located elsewhere location? same
    unfold callLocated
    rw [same]

/-- A body that fails with a context of its own, at another place and in another
built-in: the name is overwritten by the call, and the place by the caller. -/
theorem call_refines_invoke_inner_context :
    let inner : Failure :=
      { cause := .format "inner"
        context := some { builtin := some "inner", location := some ⟨none, 9, 9⟩ } }
    let catalogue : Catalogue := { builtins := [⟨"outer", 1, fun _ => .error inner⟩], settings := {} }
    catalogue.lookup "outer" = some ⟨"outer", 1, fun _ => .error inner⟩ ∧
      catalogue.call "outer" [.null] =
        .failed
          { cause := .format "inner"
            context := some { builtin := some "outer", location := some ⟨none, 9, 9⟩ } } ∧
      catalogue.callLocated "outer" [⟨.null, some ⟨none, 7, 7⟩⟩] (some ⟨some "p", 1, 2⟩) =
        .failed
          { cause := .format "inner"
            context := some { builtin := some "outer", location := some ⟨some "p", 1, 2⟩ } } := by
  intro inner catalogue
  have found : catalogue.lookup "outer" = some ⟨"outer", 1, fun _ => .error inner⟩ := by
    simp [lookup, catalogue]
  obtain ⟨dispatch, -, placed, -⟩ := call_refines_invoke catalogue "outer"
  have called := (dispatch [.null] _).2 (.failed found rfl rfl)
  refine ⟨found, called, (placed _ _ _).2 ?_⟩
  show PlacedAt _ (catalogue.call "outer" [.null]) _
  rw [called]
  exact .failed _ _

end Catalogue

end PolicyBuiltins
