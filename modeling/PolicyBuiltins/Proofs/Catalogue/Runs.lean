/-
# Drafts made in steps

A draft is started empty or with the standard built-ins, taken through any steps, and
sealed.  What a step is answered hangs on nothing but the names that are taken where it is
met: those the draft was started with and those that earlier steps brought in.  A refused
step leaves no trace, so it can be struck out without changing the draft or any other
answer.

The sealed catalogue has what the draft was started with and what the steps brought in, one
built-in for each name, and the last settings that were chosen.
-/

import PolicyBuiltins.Catalogue.Steps
import PolicyBuiltins.Proofs.Catalogue.Standard
import PolicyBuiltins.Proofs.Text.ByteOrder

namespace PolicyBuiltins

namespace Draft

/-- What a step is answered where some names are taken.  The count of arguments is looked
at before the name. -/
inductive Answers (taken : List String) : Step → Option Failure → Prop
  | admitted {builtin : Builtin} (least : 1 ≤ builtin.arity) (greatest : builtin.arity ≤ 8)
      (free : builtin.name ∉ taken) : Answers taken (.register builtin) none
  | miscounted {builtin : Builtin} (outside : ¬ (1 ≤ builtin.arity ∧ builtin.arity ≤ 8)) :
      Answers taken (.register builtin)
        (some { cause := .invalidArity builtin.name builtin.arity 8, context := none })
  | duplicate {builtin : Builtin} (least : 1 ≤ builtin.arity) (greatest : builtin.arity ≤ 8)
      (used : builtin.name ∈ taken) :
      Answers taken (.register builtin)
        (some { cause := .duplicateBuiltin builtin.name, context := none })
  | configured (settings : Settings) : Answers taken (.configure settings) none

/-- The built-in that a step with its answer brings in. -/
def Step.admits? : Step × Option Failure → Option Builtin
  | (.register builtin, none) => some builtin
  | _ => none

/-- The settings that a step chooses. -/
def Step.settings? : Step → Option Settings
  | .register _ => none
  | .configure settings => some settings

/-- The built-ins that steps bring into a draft, the latest first. -/
def admitted (draft : Draft) (steps : List Step) : List Builtin :=
  ((steps.zip (draft.answers steps)).filterMap Step.admits?).reverse

/-- The names of a draft. -/
def names (draft : Draft) : List String :=
  draft.builtins.map Builtin.name

/-! ## One step -/

theorem isSome_lookup_iff {draft : Draft} {name : String} :
    (draft.lookup name).isSome = true ↔ name ∈ draft.names := by
  rw [lookup, List.find?_isSome, names, List.mem_map]
  simp only [beq_iff_eq]

/-- A step is answered as the names of the draft demand. -/
theorem answers_perform (draft : Draft) (step : Step) :
    Answers draft.names step (draft.perform step).2 := by
  cases step with
  | configure settings => exact .configured settings
  | register builtin =>
    by_cases outside : builtin.arity < 1 ∨ maxArity < builtin.arity
    · have refused : draft.perform (.register builtin) =
          (draft, some { cause := .invalidArity builtin.name builtin.arity maxArity }) := by
        rw [perform, register, if_pos outside]
      rw [refused]
      exact .miscounted (by rw [maxArity] at outside; omega)
    · rw [maxArity] at outside
      by_cases used : (draft.lookup builtin.name).isSome = true
      · have refused : draft.perform (.register builtin) =
            (draft, some { cause := .duplicateBuiltin builtin.name }) := by
          rw [perform, register, maxArity, if_neg outside, if_pos used]
        rw [refused]
        exact .duplicate (by omega) (by omega) (isSome_lookup_iff.1 used)
      · have taken_in : (draft.perform (.register builtin)).2 = none := by
          rw [perform, register, maxArity, if_neg outside, if_neg used]
        rw [taken_in]
        exact .admitted (by omega) (by omega) fun member => used (isSome_lookup_iff.2 member)

/-- The names decide the answer. -/
theorem Answers.unique {taken : List String} {step : Step} {answer other : Option Failure}
    (first : Answers taken step answer) (second : Answers taken step other) :
    answer = other := by
  cases first with
  | configured settings =>
    cases second
    rfl
  | admitted least greatest free =>
    cases second with
    | admitted => rfl
    | miscounted outside => exact absurd ⟨least, greatest⟩ outside
    | duplicate _ _ used => exact absurd used free
  | miscounted outside =>
    cases second with
    | admitted least greatest => exact absurd ⟨least, greatest⟩ outside
    | miscounted => rfl
    | duplicate least greatest => exact absurd ⟨least, greatest⟩ outside
  | duplicate least greatest used =>
    cases second with
    | admitted _ _ free => exact absurd used free
    | miscounted outside => exact absurd ⟨least, greatest⟩ outside
    | duplicate => rfl

theorem perform_answer_eq_iff {draft : Draft} {step : Step} {answer : Option Failure} :
    (draft.perform step).2 = answer ↔ Answers draft.names step answer :=
  ⟨fun answered => answered ▸ answers_perform draft step,
    fun demanded => (answers_perform draft step).unique demanded⟩

/-- A refused step leaves the draft as it was. -/
theorem perform_of_refused {draft : Draft} {step : Step} {failure : Failure}
    (refused : (draft.perform step).2 = some failure) : (draft.perform step).1 = draft := by
  cases step with
  | configure settings => cases refused
  | register builtin =>
    simp only [perform] at refused ⊢
    cases registered : draft.register builtin with
    | error failure => rfl
    | ok larger =>
      rw [registered] at refused
      cases refused

theorem eq_of_register_eq_ok {draft larger : Draft} {builtin : Builtin}
    (registered : draft.register builtin = .ok larger) :
    larger = { draft with builtins := builtin :: draft.builtins } := by
  rw [register] at registered
  split at registered
  next => cases registered
  next =>
    split at registered
    next => cases registered
    next => exact (Except.ok.inj registered).symm

/-- A step puts what it brings in in front of the draft. -/
theorem builtins_perform (draft : Draft) (step : Step) :
    (draft.perform step).1.builtins =
      (Step.admits? (step, (draft.perform step).2)).toList ++ draft.builtins := by
  cases step with
  | configure settings => rfl
  | register builtin =>
    simp only [perform]
    cases registered : draft.register builtin with
    | error failure => rfl
    | ok larger =>
      rw [eq_of_register_eq_ok registered]
      rfl

/-- Only choosing settings changes them. -/
theorem settings_perform (draft : Draft) (step : Step) :
    (draft.perform step).1.settings = step.settings?.getD draft.settings := by
  cases step with
  | configure settings => rfl
  | register builtin =>
    simp only [perform]
    cases registered : draft.register builtin with
    | error failure => rfl
    | ok larger =>
      rw [eq_of_register_eq_ok registered]
      rfl

/-- Names stay distinct. -/
theorem nodup_names_perform {draft : Draft} (distinct : draft.names.Nodup) (step : Step) :
    (draft.perform step).1.names.Nodup := by
  rw [names, builtins_perform, List.map_append]
  cases answered : Step.admits? (step, (draft.perform step).2) with
  | none => exact distinct
  | some builtin =>
    refine List.nodup_cons.2 ⟨?_, distinct⟩
    have demanded := answers_perform draft step
    cases step with
    | configure settings => cases answered
    | register other =>
      cases answer : (draft.perform (.register other)).2 with
      | some failure =>
        rw [answer] at answered
        cases answered
      | none =>
        rw [answer] at answered demanded
        obtain rfl := Option.some.inj answered
        cases demanded with
        | admitted _ _ free => exact free

/-! ## Several steps -/

theorem after_cons (draft : Draft) (step : Step) (steps : List Step) :
    draft.after (step :: steps) = (draft.perform step).1.after steps := rfl

theorem answers_cons (draft : Draft) (step : Step) (steps : List Step) :
    draft.answers (step :: steps) =
      (draft.perform step).2 :: (draft.perform step).1.answers steps := rfl

theorem after_append (draft : Draft) (front back : List Step) :
    draft.after (front ++ back) = (draft.after front).after back :=
  List.foldl_append

theorem answers_append (draft : Draft) (front back : List Step) :
    draft.answers (front ++ back) = draft.answers front ++ (draft.after front).answers back := by
  induction front generalizing draft with
  | nil => rfl
  | cons step front ih =>
    rw [List.cons_append, answers_cons, answers_cons, ih, after_cons, List.cons_append]

theorem length_answers (draft : Draft) (steps : List Step) :
    (draft.answers steps).length = steps.length := by
  induction steps generalizing draft with
  | nil => rfl
  | cons step steps ih => rw [answers_cons, List.length_cons, ih, List.length_cons]

theorem admitted_cons (draft : Draft) (step : Step) (steps : List Step) :
    draft.admitted (step :: steps) = (draft.perform step).1.admitted steps ++
      (Step.admits? (step, (draft.perform step).2)).toList := by
  rw [admitted, answers_cons, List.zip_cons_cons, List.filterMap_cons]
  cases Step.admits? (step, (draft.perform step).2) with
  | none => exact (List.append_nil _).symm
  | some builtin => exact List.reverse_cons

/-- Behind steps, a draft has what it was started with and what they brought in. -/
theorem builtins_after (draft : Draft) (steps : List Step) :
    (draft.after steps).builtins = draft.admitted steps ++ draft.builtins := by
  induction steps generalizing draft with
  | nil => rfl
  | cons step steps ih =>
    rw [after_cons, ih, builtins_perform, admitted_cons, List.append_assoc]

/-- Behind steps, a draft has the last settings that were chosen. -/
theorem settings_after (draft : Draft) (steps : List Step) :
    (draft.after steps).settings =
      (steps.filterMap Step.settings?).getLast?.getD draft.settings := by
  induction steps generalizing draft with
  | nil => rfl
  | cons step steps ih =>
    rw [after_cons, ih, settings_perform, List.filterMap_cons]
    cases step.settings? with
    | none => rfl
    | some settings => rw [List.getLast?_cons, Option.getD_some, Option.getD_some]

theorem nodup_names_after {draft : Draft} (distinct : draft.names.Nodup) (steps : List Step) :
    (draft.after steps).names.Nodup := by
  induction steps generalizing draft with
  | nil => exact distinct
  | cons step steps ih => exact ih (nodup_names_perform distinct step)

/-- The answer to a step in the middle of others. -/
theorem getElem?_answers (draft : Draft) (front back : List Step) (step : Step) :
    (draft.answers (front ++ step :: back))[front.length]? =
      some ((draft.after front).perform step).2 := by
  rw [answers_append, List.getElem?_append_right (Nat.le_of_eq (length_answers draft front)),
    length_answers,
    Nat.sub_self, answers_cons]
  rfl

theorem getElem?_answers_eq_some_iff {draft : Draft} {front back : List Step} {step : Step}
    {answer : Option Failure} :
    (draft.answers (front ++ step :: back))[front.length]? = some answer ↔
      Answers ((draft.admitted front ++ draft.builtins).map Builtin.name) step answer := by
  rw [getElem?_answers, Option.some.injEq, perform_answer_eq_iff, names, builtins_after]

/-- A refused step can be struck out. -/
theorem strike_refused {draft : Draft} {front back : List Step} {step : Step}
    {failure : Failure}
    (refused : (draft.answers (front ++ step :: back))[front.length]? = some (some failure)) :
    draft.after (front ++ [step]) = draft.after front ∧
      draft.after (front ++ step :: back) = draft.after (front ++ back) ∧
      (draft.answers (front ++ step :: back)).eraseIdx front.length =
        draft.answers (front ++ back) := by
  rw [getElem?_answers, Option.some.injEq] at refused
  have kept := perform_of_refused refused
  refine ⟨?_, ?_, ?_⟩
  · rw [after_append, after_cons, kept]
    rfl
  · rw [after_append, after_cons, kept, after_append]
  · rw [answers_append, answers_cons, kept, answers_append,
      List.eraseIdx_append_of_length_le (Nat.le_of_eq (length_answers draft front)),
      length_answers, Nat.sub_self]
    rfl

end Draft

/-! ## Sealing -/

namespace Catalogue

theorem names_perm (catalogue : Catalogue) :
    catalogue.names.Perm (catalogue.builtins.map Builtin.name) := by
  have sorted := (Text.sorted_perm
    (catalogue.builtins.map fun builtin => builtin.name.toList)).map String.ofList
  simpa only [names, List.map_map, Function.comp_def, String.ofList_toList] using sorted

/-- Distinct names are listed in the strict order of their bytes. -/
theorem pairwise_names {catalogue : Catalogue}
    (distinct : (catalogue.builtins.map Builtin.name).Nodup) :
    catalogue.names.Pairwise fun first second => Text.bytes first < Text.bytes second := by
  have ordered : catalogue.names.Pairwise fun first second =>
      Text.precedes first.toList second.toList = true := by
    rw [names, List.pairwise_map]
    simpa only [String.toList_ofList] using Text.sorted_pairwise _
  have distinct_names : catalogue.names.Nodup := (names_perm catalogue).nodup_iff.2 distinct
  exact (ordered.and distinct_names).imp fun ⟨before, differs⟩ =>
    Text.bytes_lt_of_precedes before differs

end Catalogue

namespace Draft

/-- Drafts made in steps.  Started empty or with the standard built-ins, each step is
answered as the names demand that are taken where it is met, and a refused step can be
struck out without a trace.  The sealed catalogue holds each built-in that the draft was
started with or that a step brought in under a name of its own, lists the names in the
strict order of their bytes, and keeps the settings that were chosen last. -/
theorem steps_admit_each_name_once :
    ∃ standard, Draft.standard? = .ok standard ∧
      ∀ start, start = Draft.empty ∨ start = standard →
        (∀ front step back,
          (∀ answer,
            (start.answers (front ++ step :: back))[front.length]? = some answer ↔
              Answers ((start.admitted front ++ start.builtins).map Builtin.name) step answer) ∧
          (∀ failure,
            (start.answers (front ++ step :: back))[front.length]? = some (some failure) →
              start.after (front ++ [step]) = start.after front ∧
                start.after (front ++ step :: back) = start.after (front ++ back) ∧
                (start.answers (front ++ step :: back)).eraseIdx front.length =
                  start.answers (front ++ back)) ∧
          ∀ settings, step = .configure settings →
            (start.after (front ++ [step])).builtins = (start.after front).builtins) ∧
        ∀ steps,
          ((start.admitted steps ++ start.builtins).map Builtin.name).Nodup ∧
          (∀ name builtin, (start.after steps).seal.lookup name = some builtin ↔
            builtin ∈ start.admitted steps ++ start.builtins ∧ builtin.name = name) ∧
          (start.after steps).seal.size =
            (start.admitted steps).length + start.builtins.length ∧
          (start.after steps).seal.names.Perm
            ((start.admitted steps ++ start.builtins).map Builtin.name) ∧
          ((start.after steps).seal.names.Pairwise fun first second =>
            Text.bytes first < Text.bytes second) ∧
          (start.after steps).seal.settings =
            (steps.filterMap Step.settings?).getLast?.getD {} := by
  refine ⟨_, standard?_eq_ok, ?_⟩
  intro start starts
  have distinct : start.names.Nodup := by
    rcases starts with rfl | rfl
    · exact List.nodup_nil
    · exact Catalogue.nodup_names_standard
  have default_settings : start.settings = {} := by
    rcases starts with rfl | rfl <;> rfl
  refine ⟨fun front step back => ⟨?_, ?_, ?_⟩, fun steps => ?_⟩
  · intro answer
    exact getElem?_answers_eq_some_iff
  · intro failure refused
    exact strike_refused refused
  · rintro settings rfl
    rw [after_append]
    rfl
  · have sealed_distinct : ((start.after steps).seal.builtins.map Builtin.name).Nodup :=
      nodup_names_after distinct steps
    rw [← List.length_append, ← builtins_after, ← default_settings, ← settings_after]
    exact ⟨sealed_distinct, fun _ _ => Catalogue.lookup_eq_some_iff sealed_distinct, rfl,
      Catalogue.names_perm _, Catalogue.pairwise_names sealed_distinct, rfl⟩

/-- A second built-in of a name is refused, and for its count of arguments where that is bad
too; the first one stays. -/
theorem steps_admit_each_name_once_refused :
    let first : Builtin := ⟨"count", 1, fun _ => .ok .undefined⟩
    let second : Builtin := ⟨"count", 9, fun _ => .ok (.value .null)⟩
    (Draft.empty.answers [.register first, .register second, .configure .lenient])[1]? =
        some (some { cause := .invalidArity "count" 9 8, context := none }) ∧
      Draft.empty.after [.register first, .register second, .configure .lenient] =
        Draft.empty.after [.register first, .configure .lenient] := by
  intro first second
  obtain ⟨_, _, laws⟩ := steps_admit_each_name_once
  obtain ⟨runs, -⟩ := laws Draft.empty (Or.inl rfl)
  obtain ⟨answered, struck, -⟩ :=
    runs [.register first] (.register second) [.configure .lenient]
  have outside : ¬ (1 ≤ second.arity ∧ second.arity ≤ 8) := by decide
  have refused := (answered _).2 (.miscounted outside)
  exact ⟨refused, (struck _ refused).2.1⟩

end Draft

end PolicyBuiltins
