/-
# What layers leave of a failure

A layer overwrites what inner layers said on its own point and leaves the rest alone: the
other point, and what went wrong.  So of any number of layers only the last word on each
point can be seen, and layers on different points can change places.

The message shows this.  It is that of the cause, behind the last name and before the last
place.
-/

import PolicyBuiltins.Failure.Layers
import PolicyBuiltins.Proofs.Catalogue.Dispatch

namespace PolicyBuiltins

namespace Failure

/-! ## One layer -/

/-- A layer puts in what it says, and keeps everything else. -/
theorem outside_eq (failure : Failure) (layer : Layer) :
    failure.outside layer =
      { cause := failure.cause
        context := some
          { builtin := layer.name?.or failure.builtin?
            location := layer.location?.or failure.location? } } := by
  cases layer with
  | builtin name => exact failure.inBuiltin_eq name
  | place location => exact failure.located_eq location

/-- A failure is its cause, whether it has a context at all, and the two points of that. -/
theorem eq_of_points {first second : Failure} (cause : first.cause = second.cause)
    (bare : first.context = none ↔ second.context = none)
    (builtin : first.builtin? = second.builtin?)
    (location : first.location? = second.location?) : first = second := by
  obtain ⟨_, context⟩ := first
  obtain ⟨_, context'⟩ := second
  obtain rfl := cause
  cases context with
  | none =>
    obtain rfl : context' = none := bare.1 rfl
    rfl
  | some context =>
    cases context' with
    | none => cases bare.2 rfl
    | some context' =>
      obtain ⟨name, place⟩ := context
      obtain ⟨name', place'⟩ := context'
      obtain rfl : name = name' := builtin
      obtain rfl : place = place' := location
      rfl

/-! ## Several layers -/

theorem through_cons (failure : Failure) (layer : Layer) (layers : List Layer) :
    failure.through (layer :: layers) = (failure.outside layer).through layers :=
  rfl

theorem cause_through (failure : Failure) (layers : List Layer) :
    (failure.through layers).cause = failure.cause := by
  induction layers generalizing failure with
  | nil => rfl
  | cons layer layers ih => rw [through_cons, ih, outside_eq]

/-- Without a context no layer has been passed. -/
theorem context_through_eq_none_iff {failure : Failure} {layers : List Layer} :
    (failure.through layers).context = none ↔ failure.context = none ∧ layers = [] := by
  induction layers generalizing failure with
  | nil => simp [through]
  | cons layer layers ih => simp [through_cons, ih, outside_eq]

/-- The last word behind a first one. -/
theorem getLast?_filterMap_cons_or {α β : Type} (point : α → Option β) (first : α)
    (others : List α) (before : Option β) :
    ((first :: others).filterMap point).getLast?.or before =
      (others.filterMap point).getLast?.or ((point first).or before) := by
  rw [List.filterMap_cons]
  cases point first with
  | none => rfl
  | some said =>
    rw [List.getLast?_cons]
    cases (others.filterMap point).getLast? <;> rfl

/-- The built-in is the last one that was named. -/
theorem builtin?_through (failure : Failure) (layers : List Layer) :
    (failure.through layers).builtin? =
      (layers.filterMap Layer.name?).getLast?.or failure.builtin? := by
  induction layers generalizing failure with
  | nil => rfl
  | cons layer layers ih =>
    rw [through_cons, ih, getLast?_filterMap_cons_or, outside_eq]
    rfl

/-- The place is the last one that was given. -/
theorem location?_through (failure : Failure) (layers : List Layer) :
    (failure.through layers).location? =
      (layers.filterMap Layer.location?).getLast?.or failure.location? := by
  induction layers generalizing failure with
  | nil => rfl
  | cons layer layers ih =>
    rw [through_cons, ih, getLast?_filterMap_cons_or, outside_eq]
    rfl

/-- Every layer says something. -/
theorem eq_nil_iff_says_nothing {layers : List Layer} :
    layers = [] ↔
      layers.filterMap Layer.name? = [] ∧ layers.filterMap Layer.location? = [] := by
  cases layers with
  | nil => simp
  | cons layer layers => cases layer <;> simp [Layer.name?, Layer.location?]

/-- How the names stand among the places makes no difference. -/
theorem through_congr (failure : Failure) {layers others : List Layer}
    (names : others.filterMap Layer.name? = layers.filterMap Layer.name?)
    (places : others.filterMap Layer.location? = layers.filterMap Layer.location?) :
    failure.through others = failure.through layers := by
  apply eq_of_points
  · rw [cause_through, cause_through]
  · rw [context_through_eq_none_iff, context_through_eq_none_iff, eq_nil_iff_says_nothing,
      names, places, ← eq_nil_iff_says_nothing]
  · rw [builtin?_through, builtin?_through, names]
  · rw [location?_through, location?_through, places]

/-- The last layer on a point decides it, and no layer touches what went wrong.  Outside of any
layers the cause and the operand position are those of the failure; there is no context only
if there was none and there is no layer; the built-in and the place are the last ones given,
or else those of the failure; only the order on each point matters; and the message puts the
built-in in front of the words for the cause and the place behind them. -/
theorem last_layer_decides (failure : Failure) (layers : List Layer) :
    let outer := failure.through layers
    let name? := (layers.filterMap Layer.name?).getLast?.or failure.builtin?
    let location? := (layers.filterMap Layer.location?).getLast?.or failure.location?
    outer.cause = failure.cause ∧
    outer.position? = failure.position? ∧
    (outer.context = none ↔ failure.context = none ∧ layers = []) ∧
    outer.builtin? = name? ∧
    outer.location? = location? ∧
    (∀ others : List Layer,
      others.filterMap Layer.name? = layers.filterMap Layer.name? →
      others.filterMap Layer.location? = layers.filterMap Layer.location? →
      failure.through others = outer) ∧
    toString outer =
      (match name? with
        | some name => name ++ ": "
        | none => "") ++
      failure.cause.message ++
      (match location? with
        | some location => " at " ++ location.text
        | none => "") := by
  intro outer name? location?
  have cause_eq : outer.cause = failure.cause := cause_through failure layers
  have builtin_eq : outer.builtin? = name? := builtin?_through failure layers
  have location_eq : outer.location? = location? := location?_through failure layers
  refine ⟨cause_eq, congrArg Cause.position? cause_eq, context_through_eq_none_iff, builtin_eq,
    location_eq, fun others names places => through_congr failure names places, ?_⟩
  show outer.message = _
  rewrite [message, cause_eq, builtin_eq, location_eq]
  rfl

/-- A failure with a context of its own: a second name overwrites the first one, and the place
may be given before the names, between them, or behind them. -/
theorem last_layer_decides_named_twice :
    let inner : Failure :=
      { cause := .operandType 1 .null [.string]
        context := some { builtin := some "inner", location := none } }
    let place : Location := ⟨some "p.policy", 4, 9⟩
    inner.through [.place place, .builtin "trim", .builtin "upper"] =
        inner.through [.builtin "trim", .place place, .builtin "upper"] ∧
      (inner.through [.builtin "trim", .place place, .builtin "upper"]).builtin? =
        some "upper" ∧
      toString (inner.through [.builtin "trim", .place place, .builtin "upper"]) =
        "upper: operand 1 must be string but got null at p.policy:4:9" := by
  intro inner place
  obtain ⟨-, -, -, named, -, moved, shown⟩ :=
    last_layer_decides inner [.builtin "trim", .place place, .builtin "upper"]
  refine ⟨moved _ rfl rfl, named, shown.trans ?_⟩
  decide +kernel

end Failure

/-- A call from a known place is two layers around the body: the one that names the built-in,
and the caller. -/
theorem Catalogue.callLocated_eq_through {catalogue : Catalogue} {name : String}
    {builtin : Builtin} {located : List Located} (found : catalogue.lookup name = some builtin)
    (served : located.length = builtin.arity) (location : Location) :
    catalogue.callLocated name located (some location) =
      (catalogue.invoke builtin (located.map Located.value)).mapFailure
        (·.through [.builtin name, .place location]) := by
  have values_served : (located.map Located.value).length = builtin.arity := by
    rw [List.length_map, served]
  simp only [callLocated, call_of_length_eq found values_served]
  cases catalogue.invoke builtin (located.map Located.value) <;> rfl

end PolicyBuiltins
