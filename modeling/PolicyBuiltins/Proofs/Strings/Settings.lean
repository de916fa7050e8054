/-
# What settings change

Strict settings turn doubtful input into failures: a range that leaves its text, and a
template that disagrees with its arguments.  Every other setting only takes such failures
back.  Where the strict settings give an answer, or fail for another reason, all settings
do the same; under the lenient ones doubtful input never fails.

Having no answer is not a matter of settings.  It is how the three predicates on texts say
that they do not hold, and no other string built-in says it.
-/

import PolicyBuiltins.Proofs.Catalogue.Dispatch
import PolicyBuiltins.Proofs.Strings.Contracts

namespace PolicyBuiltins

/-- A cause that is a failure only where the settings say so. -/
inductive Cause.IsDoubt : Cause → Prop
  | range (index : Int) (length : Nat) : IsDoubt (.indexOutOfBounds index length)
  | template (text : String) : IsDoubt (.format text)

/-- A call that fails over doubtful input. -/
def Outcome.FailsInDoubt (outcome : Outcome) : Prop :=
  ∃ failure, outcome = .failed failure ∧ failure.cause.IsDoubt

/-- A result under the strict settings and the one under others: they are the same, or
the strict one fails over doubtful input. -/
def Relaxes {α : Type} (strict other : Except Failure α) : Prop :=
  other = strict ∨ ∃ failure, strict = .error failure ∧ failure.cause.IsDoubt

theorem relaxes_refl {α : Type} (result : Except Failure α) : Relaxes result result :=
  Or.inl rfl

/-- What comes before the settings matter is the same under all of them. -/
theorem relaxes_bind {α β : Type} (first : Except Failure α)
    {strict other : α → Except Failure β} (rest : ∀ found, Relaxes (strict found) (other found)) :
    Relaxes (first >>= strict) (first >>= other) := by
  cases first with
  | error failure => exact Or.inl rfl
  | ok found => exact rest found

theorem Relaxes.map {α β : Type} {strict other : Except Failure α}
    (relaxes : Relaxes strict other) (answer : α → β) :
    Relaxes (strict >>= fun found => pure (answer found))
      (other >>= fun found => pure (answer found)) := by
  rcases relaxes with rfl | ⟨failure, rfl, doubt⟩
  · exact Or.inl rfl
  · exact Or.inr ⟨failure, rfl, doubt⟩

namespace Strings

/-! ## Settings and bodies -/

/-- A range inside the text is cut out alike under both rules. -/
theorem relaxes_slice (rule : RangeRule) (text : List Char) (start length : Int) :
    Relaxes (slice .reject text start length) (slice rule text start length) := by
  cases rule with
  | reject => exact relaxes_refl _
  | clamp =>
    simp only [slice]
    split
    next => exact Or.inr ⟨_, rfl, .range _ _⟩
    next =>
      split
      next => exact Or.inr ⟨_, rfl, .range _ _⟩
      next => exact relaxes_refl _

/-- A template that agrees with its arguments has one text under both rules. -/
theorem relaxes_format (rule : MismatchRule) (template : List Char) (arguments : List Value) :
    Relaxes (Template.format .reject template arguments)
      (Template.format rule template arguments) := by
  cases rule with
  | reject => exact relaxes_refl _
  | mark =>
    rw [Template.format_reject]
    cases Template.mismatches (Template.pieces template) arguments with
    | nil => exact relaxes_refl _
    | cons first later => exact Or.inr ⟨_, rfl, .template _⟩

theorem relaxes_substring (arguments : List Value) (settings : Settings) :
    Relaxes (substring { arguments, settings := .strict })
      (substring { arguments, settings }) := by
  refine relaxes_bind _ fun text => ?_
  refine relaxes_bind _ fun start => ?_
  refine relaxes_bind _ fun length => ?_
  exact (relaxes_slice settings.ranges text start length).map _

theorem relaxes_sprintf (arguments : List Value) (settings : Settings) :
    Relaxes (sprintf { arguments, settings := .strict }) (sprintf { arguments, settings }) := by
  refine relaxes_bind _ fun template => ?_
  refine relaxes_bind _ fun items => ?_
  exact (relaxes_format settings.mismatches template items).map _

/-- Only `substring` and `sprintf` look at the settings. -/
theorem relaxes_body :
    ∀ builtin ∈ builtins, ∀ (arguments : List Value) (settings : Settings),
      Relaxes (builtin.body { arguments, settings := .strict })
        (builtin.body { arguments, settings }) := by
  simp only [builtins, List.forall_mem_cons]
  refine ⟨?_, ?_, ?_, relaxes_substring, ?_, ?_, ?_, ?_, ?_, ?_, ?_, ?_, ?_, ?_, ?_, ?_, ?_,
    relaxes_sprintf, List.forall_mem_nil _⟩
  all_goals
    intro arguments settings
    exact relaxes_refl _

/-! ## Predicates -/

/-- The built-ins that answer whether a pattern stands in a text in some way. -/
def relations : List (String × (List Char → List Char → Prop)) :=
  [("contains", fun pattern text => pattern <:+: text),
   ("startswith", fun pattern text => pattern <+: text),
   ("endswith", fun pattern text => pattern <:+ text)]

/-- A built-in that decides one of the relations. -/
def Decides (builtin : Builtin) (relation : List Char → List Char → Prop) : Prop :=
  (builtin.name, relation) ∈ relations ∧ builtin.arity = 2 ∧
    ∃ holds, builtin.body = predicate holds ∧
      ∀ pattern text, holds pattern text = true ↔ relation pattern text

theorem decides_contains :
    Decides ⟨"contains", 2, predicate Text.contains⟩ fun pattern text => pattern <:+: text :=
  ⟨.head _, rfl, _, rfl, fun _ _ => Text.contains_eq_true_iff⟩

theorem decides_startswith :
    Decides ⟨"startswith", 2, predicate List.isPrefixOf⟩ fun pattern text => pattern <+: text :=
  ⟨.tail _ (.head _), rfl, _, rfl, fun _ _ => List.isPrefixOf_iff_prefix⟩

theorem decides_endswith :
    Decides ⟨"endswith", 2, predicate List.isSuffixOf⟩ fun pattern text => pattern <:+ text :=
  ⟨.tail _ (.tail _ (.head _)), rfl, _, rfl, fun _ _ => List.isSuffixOf_iff_suffix⟩

theorem exists_of_bind_eq_ok {α β : Type} {first : Except Failure α}
    {next : α → Except Failure β} {result : β} (ran : first >>= next = .ok result) :
    ∃ found, first = .ok found ∧ next found = .ok result := by
  cases first with
  | error failure => cases ran
  | ok found => exact ⟨found, rfl, ran⟩

/-- A body that goes on to answer with a value answers with a value. -/
theorem bind_ne_undefined {α : Type} {first : Except Failure α}
    {next : α → Except Failure Answer} (rest : ∀ found, next found ≠ .ok .undefined) :
    first >>= next ≠ .ok .undefined := by
  intro ran
  obtain ⟨found, -, ran⟩ := exists_of_bind_eq_ok ran
  exact rest found ran

theorem formatInt_ne_undefined (invocation : Invocation) :
    formatInt invocation ≠ .ok .undefined := by
  refine bind_ne_undefined fun number => ?_
  refine bind_ne_undefined fun base => ?_
  split
  next => exact nofun
  next => exact nofun

theorem substring_ne_undefined (invocation : Invocation) :
    substring invocation ≠ .ok .undefined := by
  refine bind_ne_undefined fun text => ?_
  refine bind_ne_undefined fun start => ?_
  refine bind_ne_undefined fun length => ?_
  exact bind_ne_undefined fun found => nofun

theorem replace_ne_undefined (invocation : Invocation) :
    replace invocation ≠ .ok .undefined := by
  refine bind_ne_undefined fun text => ?_
  refine bind_ne_undefined fun old => ?_
  exact bind_ne_undefined fun new => nofun

theorem unary_ne_undefined (map : List Char → List Char) (invocation : Invocation) :
    unary map invocation ≠ .ok .undefined :=
  bind_ne_undefined fun _ => nofun

theorem two_ne_undefined {α β : Type} {first : Except Failure α} {second : Except Failure β}
    (value : α → β → Value) :
    (do
      let early ← first
      let late ← second
      return Answer.value (value early late)) ≠ .ok .undefined :=
  bind_ne_undefined fun _ => bind_ne_undefined fun _ => nofun

theorem sprintf_ne_undefined (invocation : Invocation) :
    sprintf invocation ≠ .ok .undefined := by
  refine bind_ne_undefined fun template => ?_
  refine bind_ne_undefined fun items => ?_
  exact bind_ne_undefined fun found => nofun

/-- A string built-in decides a relation, or it never lacks an answer. -/
theorem decides_or_ne_undefined :
    ∀ builtin ∈ builtins, (∃ relation, Decides builtin relation) ∨
      ∀ invocation, builtin.body invocation ≠ .ok .undefined := by
  simp only [builtins, List.forall_mem_cons]
  refine ⟨.inr formatInt_ne_undefined, .inr fun _ => two_ne_undefined _,
    .inr fun _ => two_ne_undefined _, .inr substring_ne_undefined,
    .inl ⟨_, decides_contains⟩, .inl ⟨_, decides_startswith⟩, .inl ⟨_, decides_endswith⟩,
    .inr (unary_ne_undefined _), .inr (unary_ne_undefined _), .inr fun _ => two_ne_undefined _,
    .inr replace_ne_undefined, .inr fun _ => two_ne_undefined _,
    .inr fun _ => two_ne_undefined _, .inr fun _ => two_ne_undefined _,
    .inr fun _ => two_ne_undefined _, .inr fun _ => two_ne_undefined _,
    .inr (unary_ne_undefined _), .inr sprintf_ne_undefined, List.forall_mem_nil _⟩

/-! ## Calls -/

/-- A call under any settings is the strict one, unless that fails over doubtful input. -/
theorem call_eq_or_failsInDoubt (settings : Settings) (name : String)
    (arguments : List Value) :
    (Catalogue.standard settings).call name arguments =
        (Catalogue.standard .strict).call name arguments ∨
      ((Catalogue.standard .strict).call name arguments).FailsInDoubt := by
  cases found : (Catalogue.standard .strict).lookup name with
  | none =>
    have found' : (Catalogue.standard settings).lookup name = none := found
    rw [Catalogue.call_of_lookup_eq_none found, Catalogue.call_of_lookup_eq_none found']
    exact Or.inl rfl
  | some builtin =>
    have found' : (Catalogue.standard settings).lookup name = some builtin := found
    by_cases served : arguments.length = builtin.arity
    · rw [Catalogue.call_of_length_eq found served, Catalogue.call_of_length_eq found' served,
        Catalogue.invoke, Catalogue.invoke]
      have inside := (Catalogue.lookup_standard_eq_some_iff.1 found).1
      rcases relaxes_body builtin inside arguments settings with same | ⟨failure, failed, doubt⟩
      · exact Or.inl (congrArg (fun result =>
          (Outcome.ofResult result).mapFailure (·.inBuiltin name)) same)
      · refine Or.inr ⟨failure.inBuiltin name, ?_, doubt⟩
        exact congrArg (fun result =>
          (Outcome.ofResult result).mapFailure (·.inBuiltin name)) failed
    · rw [Catalogue.call_of_length_ne found served, Catalogue.call_of_length_ne found' served]
      exact Or.inl rfl

theorem not_isDoubt_of_rejects {demand : Demand} {position : Nat} {value : Value}
    {cause : Cause} (rejected : Rejects demand position value cause) : ¬ cause.IsDoubt := by
  cases rejected <;> exact nofun

/-- What a built-in refuses under lenient settings is not doubtful input. -/
theorem not_isDoubt_of_refuses {contract : Contract} (listed : contract ∈ contracts)
    {arguments : List Value} {cause : Cause}
    (refused : contract.refuses .lenient arguments cause) : ¬ cause.IsDoubt := by
  rcases refuses_cases contract listed with own | own | own | own
  · rw [own] at refused
    exact refused.elim
  · rw [own] at refused
    obtain ⟨_, _, _, _, rfl⟩ := refused
    exact nofun
  · rw [own] at refused
    cases refused.1
  · rw [own] at refused
    cases refused.1

theorem exists_contract {builtin : Builtin} (inside : builtin ∈ builtins) :
    ∃ contract ∈ contracts, builtin.name = contract.name ∧
      builtin.arity = contract.demands.length ∧
      Meets builtin.body contract.demands contract.refuses :=
  exists_left_of_forall₂ builtins_meet_contracts.flip inside

/-- Under lenient settings no call fails over doubtful input. -/
theorem not_failsInDoubt_lenient (name : String) (arguments : List Value) :
    ¬ ((Catalogue.standard .lenient).call name arguments).FailsInDoubt := by
  intro ⟨failure, called, doubt⟩
  cases Catalogue.call_eq_iff_dispatches.1 called with
  | unknown absent => cases doubt
  | miscounted found differs => cases doubt
  | failed found served ran =>
    obtain ⟨contract, listed, -, arity, meets⟩ :=
      exists_contract (Catalogue.lookup_standard_eq_some_iff.1 found).1
    rcases (meets .lenient arguments (served.trans arity)).cause_of_error ran with
      ⟨index, demand, value, -, -, rejected⟩ | refused
    · exact not_isDoubt_of_rejects rejected doubt
    · exact not_isDoubt_of_refuses listed refused doubt

/-- A predicate that has no answer has got two texts. -/
theorem exists_texts_of_decides {builtin : Builtin}
    {relation : List Char → List Char → Prop} (decides : Decides builtin relation)
    {settings : Settings} {arguments : List Value}
    (served : arguments.length = builtin.arity)
    (ran : builtin.body { arguments, settings } = .ok .undefined) :
    ∃ text pattern, arguments = [.string text, .string pattern] := by
  obtain ⟨-, arity, holds, body, -⟩ := decides
  obtain ⟨first, second, rfl⟩ := List.length_eq_two.1 (served.trans arity)
  rw [body] at ran
  obtain ⟨characters, first_ok, ran⟩ := exists_of_bind_eq_ok ran
  obtain ⟨characters', second_ok, -⟩ := exists_of_bind_eq_ok ran
  obtain ⟨text, rfl, -⟩ := exists_of_textOperand_eq_ok rfl first_ok
  obtain ⟨pattern, rfl, -⟩ := exists_of_textOperand_eq_ok rfl second_ok
  exact ⟨text, pattern, rfl⟩

/-- A built-in that decides a relation, called on two texts. -/
theorem call_of_decides {builtin : Builtin} (inside : builtin ∈ builtins)
    {relation : List Char → List Char → Prop} (decides : Decides builtin relation)
    (settings : Settings) (text pattern : String) :
    (relation pattern.toList text.toList →
      (Catalogue.standard settings).call builtin.name [.string text, .string pattern] =
        .defined (.bool true)) ∧
    (¬ relation pattern.toList text.toList →
      (Catalogue.standard settings).call builtin.name [.string text, .string pattern] =
        .undefined) := by
  obtain ⟨-, arity, holds, body, holds_iff⟩ := decides
  have served : [Value.string text, .string pattern].length = builtin.arity := arity.symm
  rw [Catalogue.call_of_length_eq (Catalogue.lookup_standard inside) served,
    Catalogue.invoke, body, ← holds_iff]
  constructor
  · intro met
    show (Outcome.ofResult (.ok (.when (holds pattern.toList text.toList)))).mapFailure _ = _
    rw [met]
    rfl
  · intro missed
    show (Outcome.ofResult (.ok (.when (holds pattern.toList text.toList)))).mapFailure _ = _
    rw [Bool.eq_false_of_not_eq_true missed]
    rfl

theorem exists_decides {name : String} {relation : List Char → List Char → Prop}
    (listed : (name, relation) ∈ relations) :
    ∃ builtin ∈ builtins, builtin.name = name ∧ Decides builtin relation := by
  simp only [relations, List.mem_cons, Prod.mk.injEq, List.not_mem_nil, or_false] at listed
  rcases listed with ⟨rfl, rfl⟩ | ⟨rfl, rfl⟩ | ⟨rfl, rfl⟩
  · exact ⟨_, by simp [builtins], rfl, decides_contains⟩
  · exact ⟨_, by simp [builtins], rfl, decides_startswith⟩
  · exact ⟨_, by simp [builtins], rfl, decides_endswith⟩

/-- A call has no answer exactly where a predicate gets its two texts and does not hold. -/
theorem call_eq_undefined_iff {settings : Settings} {name : String} {arguments : List Value} :
    (Catalogue.standard settings).call name arguments = .undefined ↔
      ∃ relation text pattern, (name, relation) ∈ relations ∧
        arguments = [.string text, .string pattern] ∧
        ¬ relation pattern.toList text.toList := by
  constructor
  · intro called
    cases Catalogue.call_eq_iff_dispatches.1 called with
    | @undefined builtin found served ran =>
      obtain ⟨inside, rfl⟩ := Catalogue.lookup_standard_eq_some_iff.1 found
      rcases decides_or_ne_undefined builtin inside with ⟨relation, decides⟩ | answers
      · obtain ⟨text, pattern, rfl⟩ := exists_texts_of_decides decides served ran
        refine ⟨relation, text, pattern, decides.1, rfl, ?_⟩
        intro met
        rw [(call_of_decides inside decides settings text pattern).1 met] at called
        cases called
      · exact absurd ran (answers _)
  · rintro ⟨relation, text, pattern, listed, rfl, missed⟩
    obtain ⟨builtin, inside, rfl, decides⟩ := exists_decides listed
    exact (call_of_decides inside decides settings text pattern).2 missed

/-- Settings only relax.  A call that the strict settings do not fail over doubtful input
comes to the same under all settings, and the lenient settings fail no call over doubtful
input.  A call has no answer, under whatever settings, exactly where one of the three
predicates gets two texts between which it does not hold; where it holds, the answer is
true. -/
theorem settings_only_relax :
    ∃ draft, Draft.standard? = .ok draft ∧ ∀ (name : String) (arguments : List Value),
      (¬ ((draft.withSettings .strict).seal.call name arguments).FailsInDoubt →
        ∀ settings, (draft.withSettings settings).seal.call name arguments =
          (draft.withSettings .strict).seal.call name arguments) ∧
      ¬ ((draft.withSettings .lenient).seal.call name arguments).FailsInDoubt ∧
      ∀ settings,
        ((draft.withSettings settings).seal.call name arguments = .undefined ↔
          ∃ relation text pattern, (name, relation) ∈ relations ∧
            arguments = [.string text, .string pattern] ∧
            ¬ relation pattern.toList text.toList) ∧
        ∀ relation text pattern, (name, relation) ∈ relations →
          arguments = [.string text, .string pattern] →
          relation pattern.toList text.toList →
            (draft.withSettings settings).seal.call name arguments = .defined (.bool true) := by
  refine ⟨_, Draft.standard?_eq_ok, fun name arguments => ⟨?_, ?_, fun settings => ⟨?_, ?_⟩⟩⟩
  · intro certain settings
    exact (call_eq_or_failsInDoubt settings name arguments).resolve_right certain
  · exact not_failsInDoubt_lenient name arguments
  · exact call_eq_undefined_iff
  · rintro relation text pattern listed rfl met
    obtain ⟨builtin, inside, rfl, decides⟩ := exists_decides listed
    exact (call_of_decides inside decides settings text pattern).1 met

/-- A range that reaches just to the end of its text, and a directive that gets its number:
neither is in doubt.  A missing prefix is no failure under any settings. -/
theorem settings_only_relax_where_certain :
    ∃ draft, Draft.standard? = .ok draft ∧
      (¬ ((draft.withSettings .strict).seal.call "substring"
          [.string "abc", .ofInt 1, .ofInt 2]).FailsInDoubt ∧
        ∀ settings, (draft.withSettings settings).seal.call "substring"
            [.string "abc", .ofInt 1, .ofInt 2] =
          (draft.withSettings .strict).seal.call "substring"
            [.string "abc", .ofInt 1, .ofInt 2]) ∧
      (¬ ((draft.withSettings .strict).seal.call "sprintf"
          [.string "%+d", .array [.ofInt 7]]).FailsInDoubt ∧
        ∀ settings, (draft.withSettings settings).seal.call "sprintf"
            [.string "%+d", .array [.ofInt 7]] =
          (draft.withSettings .strict).seal.call "sprintf" [.string "%+d", .array [.ofInt 7]]) ∧
      ∀ settings, (draft.withSettings settings).seal.call "startswith"
        [.string "abc", .string "b"] = .undefined := by
  obtain ⟨draft, registered, laws⟩ := settings_only_relax
  have known := registered
  rw [Draft.standard?_eq_ok, Except.ok.injEq] at known
  have certain (name : String) (arguments : List Value)
      (answered : ((draft.withSettings .strict).seal.call name arguments).isFailed = false) :
      ¬ ((draft.withSettings .strict).seal.call name arguments).FailsInDoubt := by
    intro ⟨failure, failed, _⟩
    rw [failed] at answered
    cases answered
  have inside := certain "substring" [.string "abc", .ofInt 1, .ofInt 2]
    (by rw [← known]; decide +kernel)
  have agrees := certain "sprintf" [.string "%+d", .array [.ofInt 7]]
    (by rw [← known]; decide +kernel)
  refine ⟨draft, registered, ⟨inside, (laws _ _).1 inside⟩, ⟨agrees, (laws _ _).1 agrees⟩, ?_⟩
  intro settings
  refine ((laws _ _).2.2 settings).1.2 ⟨_, "abc", "b", decides_startswith.1, rfl, ?_⟩
  decide

end Strings

end PolicyBuiltins
