/-
# The leftmost rejected operand

A body that narrows its operands in the order of their positions fails for the leftmost
one that is rejected, whatever the others are.  Only where no operand is rejected can
it fail for a reason of its own.

`Reports` says this along the list of demands, which is how bodies are built: each
narrowing settles one demand and hands over to the rest.  `RejectedAt` says it by index.
-/

import PolicyBuiltins.Proofs.Operand.Demands
import PolicyBuiltins.Outcome

namespace PolicyBuiltins

/-- The argument at an index is rejected by the demand there.  Positions are counted
from `first`. -/
def RejectedAt (first : Nat) (demands : List Demand) (arguments : List Value) (index : Nat)
    (cause : Cause) : Prop :=
  ∃ demand value, demands[index]? = some demand ∧ arguments[index]? = some value ∧
    Rejects demand (first + index) value cause

theorem rejectedAt_zero_iff {first : Nat} {demand : Demand} {demands : List Demand}
    {value : Value} {arguments : List Value} {cause : Cause} :
    RejectedAt first (demand :: demands) (value :: arguments) 0 cause ↔
      Rejects demand first value cause := by
  apply Iff.intro
  · intro ⟨demand', value', own_demand, own_value, rejected⟩
    rw [Option.some.inj own_demand, Option.some.inj own_value]
    exact rejected
  · intro rejected
    exact ⟨demand, value, rfl, rfl, rejected⟩

theorem rejectedAt_succ_iff {first : Nat} {demand : Demand} {demands : List Demand}
    {value : Value} {arguments : List Value} {index : Nat} {cause : Cause} :
    RejectedAt first (demand :: demands) (value :: arguments) (index + 1) cause ↔
      RejectedAt (first + 1) demands arguments index cause := by
  rw [RejectedAt, RejectedAt, List.getElem?_cons_succ, List.getElem?_cons_succ,
    Nat.add_right_comm first 1 index, Nat.add_assoc first index 1]

/-- A result fails for the leftmost rejected argument, and where none is rejected only
with the causes that are `refused`. -/
def Reports : List Demand → (first : Nat) → List Value → (refused : Cause → Prop) →
    Except Failure Answer → Prop
  | [], _, [], refused, result =>
    ∀ failure, result = .error failure ↔ ∃ cause, refused cause ∧ failure = { cause }
  | demand :: demands, first, value :: arguments, refused, result =>
    (∀ cause, Rejects demand first value cause → result = .error { cause }) ∧
      ((∀ cause, ¬ Rejects demand first value cause) →
        Reports demands (first + 1) arguments refused result)
  | _, _, _, _, _ => False

theorem reports_nil_of_ok {first : Nat} (answer : Answer) :
    Reports [] first [] (fun _ => False) (.ok answer) := by
  intro failure
  apply iff_of_false
  · intro failed
    cases failed
  · intro ⟨cause, refused, _⟩
    exact refused

/-- Narrowing one operand and going on with it settles the demand in front. -/
theorem reports_bind {α : Type} {demand : Demand} {demands : List Demand} {first : Nat}
    {value : Value} {arguments : List Value} {refused : Cause → Prop}
    {narrowed : Except Failure α} {next : α → Except Failure Answer}
    (narrows : Narrows demand first value narrowed)
    (rest : ∀ result, narrowed = .ok result →
      Reports demands (first + 1) arguments refused (next result)) :
    Reports (demand :: demands) first (value :: arguments) refused (narrowed >>= next) := by
  cases narrow : narrowed with
  | error failure =>
    obtain ⟨cause, rejected, _⟩ := (narrows failure).1 narrow
    refine ⟨?_, fun accepted => absurd rejected (accepted cause)⟩
    intro other rejected'
    rw [← narrow, (narrows _).2 ⟨other, rejected', rfl⟩]
    rfl
  | ok result =>
    refine ⟨?_, fun _ => rest result narrow⟩
    intro cause rejected
    have failed := (narrows _).2 ⟨cause, rejected, rfl⟩
    rw [narrow] at failed
    cases failed

variable {demands : List Demand} {first : Nat} {arguments : List Value}
  {refused : Cause → Prop} {result : Except Failure Answer}

theorem Reports.of_rejectedAt (reports : Reports demands first arguments refused result)
    {index : Nat} {cause : Cause} (rejected : RejectedAt first demands arguments index cause)
    (leftmost : ∀ earlier < index, ∀ other,
      ¬ RejectedAt first demands arguments earlier other) :
    result = .error { cause } := by
  induction demands generalizing first arguments index with
  | nil =>
    obtain ⟨demand, value, no_demand, _, _⟩ := rejected
    cases no_demand
  | cons demand demands ih =>
    cases arguments with
    | nil => exact reports.elim
    | cons value arguments =>
      obtain ⟨fails, rest⟩ := reports
      cases index with
      | zero => exact fails cause (rejectedAt_zero_iff.1 rejected)
      | succ index =>
        have accepted : ∀ other, ¬ Rejects demand first value other := by
          intro other rejected'
          exact leftmost 0 (Nat.succ_pos index) other (rejectedAt_zero_iff.2 rejected')
        apply ih (rest accepted) (rejectedAt_succ_iff.1 rejected)
        intro earlier before other rejected'
        exact leftmost (earlier + 1) (Nat.succ_lt_succ before) other
          (rejectedAt_succ_iff.2 rejected')

theorem Reports.of_accepted (reports : Reports demands first arguments refused result)
    (accepted : ∀ index cause, ¬ RejectedAt first demands arguments index cause)
    (failure : Failure) :
    result = .error failure ↔ ∃ cause, refused cause ∧ failure = { cause } := by
  induction demands generalizing first arguments with
  | nil =>
    cases arguments with
    | nil => exact reports failure
    | cons value arguments => exact reports.elim
  | cons demand demands ih =>
    cases arguments with
    | nil => exact reports.elim
    | cons value arguments =>
      apply ih (reports.2 ?_)
      · intro index cause rejected
        exact accepted (index + 1) cause (rejectedAt_succ_iff.2 rejected)
      · intro cause rejected
        exact accepted 0 cause (rejectedAt_zero_iff.2 rejected)

/-- A failure rejects an argument, or it is a refusal. -/
theorem Reports.cause_of_error (reports : Reports demands first arguments refused result)
    {failure : Failure} (failed : result = .error failure) :
    (∃ index, RejectedAt first demands arguments index failure.cause) ∨
      refused failure.cause := by
  by_cases accepted : ∀ index cause, ¬ RejectedAt first demands arguments index cause
  · obtain ⟨cause, refused, rfl⟩ := (reports.of_accepted accepted failure).1 failed
    exact Or.inr refused
  · left
    simp only [not_forall, not_not] at accepted
    classical
    obtain ⟨cause, rejected⟩ := Nat.find_spec accepted
    have leftmost : ∀ earlier < Nat.find accepted, ∀ other,
        ¬ RejectedAt first demands arguments earlier other := by
      intro earlier before other rejected'
      exact Nat.find_min accepted before ⟨other, rejected'⟩
    rw [reports.of_rejectedAt rejected leftmost] at failed
    rw [← Except.error.inj failed]
    exact ⟨_, rejected⟩

end PolicyBuiltins
