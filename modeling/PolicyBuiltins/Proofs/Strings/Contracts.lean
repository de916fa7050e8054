/-
# When the string built-ins fail

Every string built-in has a contract: the demands on its operands in the order of their
positions, and the causes for which it refuses operands that meet them.  Most refuse
none.  `format_int` refuses a base, `substring` a range where ranges are rejected, and
`sprintf` a template where mismatches are.

Each body narrows its operands from left to right and does nothing else that can fail
before it has them all.  So a call with several bad operands cites the leftmost.
-/

import PolicyBuiltins.Proofs.Catalogue.Standard
import PolicyBuiltins.Proofs.Operand.Leftmost
import PolicyBuiltins.Proofs.Template.Mismatches

namespace PolicyBuiltins.Strings

/-! ## Contracts -/

/-- Refusals of a built-in, by the settings and the arguments. -/
abbrev Refusals := Settings → List Value → Cause → Prop

/-- The built-in refuses no operands that meet its demands. -/
def never : Refusals := fun _ _ _ => False

/-- The base is none of the numbers 2, 8, 10 and 16. -/
def refusesBase : Refusals := fun _ arguments cause =>
  ∃ number base : Decimal, arguments = [.number number, .number base] ∧
    (∀ radix ∈ [2, 8, 10, 16], base ≠ Decimal.ofInt radix) ∧
    cause = .operandEnum 2 ["2", "8", "10", "16"]

/-- A range leaves a text of `count` characters, at the start or else at the end. -/
inductive LeavesText (count : Nat) (start length : Int) : Cause → Prop where
  | start (outside : start < 0 ∨ count < start) :
      LeavesText count start length (.indexOutOfBounds start count)
  | finish (inside : 0 ≤ start ∧ start ≤ count) (outside : count < rangeEnd count start length) :
      LeavesText count start length (.indexOutOfBounds (rangeEnd count start length) count)

/-- Ranges are rejected, and the range leaves the text. -/
def refusesRange : Refusals := fun settings arguments cause =>
  settings.ranges = .reject ∧
    ∃ (text : String) (start length : Int),
      arguments = [.string text, .ofInt start, .ofInt length] ∧
      LeavesText text.toList.length start length cause

/-- Mismatches are rejected, and the first of the template is described. -/
def refusesTemplate : Refusals := fun settings arguments cause =>
  settings.mismatches = .reject ∧
    ∃ (template : String) (items : List Value) (first : Template.Mismatch)
      (later : List Template.Mismatch),
      arguments = [.string template, .array items] ∧
      Template.mismatches (Template.pieces template.toList) items = first :: later ∧
      cause = .format (String.ofList first.description)

/-- What a built-in demands of its operands and refuses otherwise. -/
structure Contract where
  name : String
  demands : List Demand
  refuses : Refusals

/-- The contracts of the string built-ins. -/
def contracts : List Contract :=
  [⟨"format_int", [.number, .number], refusesBase⟩,
   ⟨"concat", [.string, .strings], never⟩,
   ⟨"index_of", [.string, .string], never⟩,
   ⟨"substring", [.string, .integer, .integer], refusesRange⟩,
   ⟨"contains", [.string, .string], never⟩,
   ⟨"startswith", [.string, .string], never⟩,
   ⟨"endswith", [.string, .string], never⟩,
   ⟨"upper", [.string], never⟩,
   ⟨"lower", [.string], never⟩,
   ⟨"split", [.string, .string], never⟩,
   ⟨"replace", [.string, .string, .string], never⟩,
   ⟨"trim", [.string, .string], never⟩,
   ⟨"trim_left", [.string, .string], never⟩,
   ⟨"trim_right", [.string, .string], never⟩,
   ⟨"trim_prefix", [.string, .string], never⟩,
   ⟨"trim_suffix", [.string, .string], never⟩,
   ⟨"trim_space", [.string], never⟩,
   ⟨"sprintf", [.string, .array], refusesTemplate⟩]

/-- A body fails as the demands and the refusals say. -/
def Meets (body : Body) (demands : List Demand) (refuses : Refusals) : Prop :=
  ∀ (settings : Settings) (arguments : List Value), arguments.length = demands.length →
    Reports demands 1 arguments (refuses settings arguments) (body { arguments, settings })

/-! ## Bodies that only map texts -/

theorem narrows_textOperand {invocation : Invocation} {position : Nat} {value : Value}
    (here : invocation.argument position = value) :
    Narrows .string position value (textOperand invocation position) := by
  intro failure
  rw [← Operand.narrows_string failure, textOperand, here]
  exact Operand.map_eq_error_iff

theorem meets_of_text (answer : List Char → Answer) :
    Meets (fun invocation => do
      let text ← textOperand invocation 1
      return answer text) [.string] never := by
  intro settings arguments served
  obtain ⟨text, rfl⟩ := List.length_eq_one_iff.1 served
  refine reports_bind (narrows_textOperand rfl) ?_
  intro text _
  exact reports_nil_of_ok _

theorem meets_of_two_texts (answer : List Char → List Char → Answer) :
    Meets (fun invocation => do
      let text ← textOperand invocation 1
      let second ← textOperand invocation 2
      return answer text second) [.string, .string] never := by
  intro settings arguments served
  obtain ⟨text, second, rfl⟩ := List.length_eq_two.1 served
  refine reports_bind (narrows_textOperand rfl) ?_
  intro text _
  refine reports_bind (narrows_textOperand rfl) ?_
  intro second _
  exact reports_nil_of_ok _

theorem replace_meets : Meets replace [.string, .string, .string] never := by
  intro settings arguments served
  obtain ⟨text, old, new, rfl⟩ := List.length_eq_three.1 served
  refine reports_bind (narrows_textOperand rfl) ?_
  intro text _
  refine reports_bind (narrows_textOperand rfl) ?_
  intro old _
  refine reports_bind (narrows_textOperand rfl) ?_
  intro new _
  exact reports_nil_of_ok _

theorem concat_meets : Meets concat [.string, .strings] never := by
  intro settings arguments served
  obtain ⟨separator, parts, rfl⟩ := List.length_eq_two.1 served
  refine reports_bind (narrows_textOperand rfl) ?_
  intro separator _
  apply reports_bind Operand.narrows_strings
  intro parts _
  exact reports_nil_of_ok _

/-! ## Bodies with refusals of their own -/

theorem exists_of_textOperand_eq_ok {invocation : Invocation} {position : Nat} {value : Value}
    {characters : List Char} (here : invocation.argument position = value)
    (narrowed : textOperand invocation position = .ok characters) :
    ∃ text : String, value = .string text ∧ characters = text.toList := by
  rw [textOperand, here] at narrowed
  cases found : Operand.string value position with
  | error failure =>
    rw [found] at narrowed
    cases narrowed
  | ok text =>
    rw [found] at narrowed
    exact ⟨text, Operand.string_eq_ok_iff.1 found, (Except.ok.inj narrowed).symm⟩

theorem formatBases_find?_eq_none_iff (base : Decimal) :
    (formatBases.find? fun (radix : Nat) => base.toWord? == some (radix : Int)) = none ↔
      ∀ radix ∈ [2, 8, 10, 16], base ≠ Decimal.ofInt radix := by
  have words : ∀ radix ∈ formatBases, IsWord radix := by decide
  have same_iff (radix : Nat) (listed : radix ∈ formatBases) :
      (base.toWord? == some (radix : Int)) = true ↔ base = Decimal.ofInt radix := by
    rw [beq_iff_eq, Decimal.toWord?_eq_some_iff, and_iff_right (words radix listed)]
  have listed : ([2, 8, 10, 16] : List Int) = formatBases.map fun radix : Nat => (radix : Int) :=
    rfl
  rw [List.find?_eq_none, listed, List.forall_mem_map]
  exact forall₂_congr fun radix inside => not_congr (same_iff radix inside)

theorem formatInt_meets : Meets formatInt [.number, .number] refusesBase := by
  intro settings arguments served
  obtain ⟨number, base, rfl⟩ := List.length_eq_two.1 served
  apply reports_bind Operand.narrows_number
  intro decimal narrowed
  apply reports_bind Operand.narrows_number
  intro decimal' narrowed' failure
  obtain rfl := Operand.number_eq_ok_iff.1 narrowed
  obtain rfl := Operand.number_eq_ok_iff.1 narrowed'
  have none_iff := formatBases_find?_eq_none_iff decimal'
  split
  · rename_i radix found
    apply iff_of_false
    · intro failed
      cases failed
    · intro ⟨cause, ⟨_, _, same, unfit, _⟩, _⟩
      cases same
      rw [none_iff.2 unfit] at found
      cases found
  · rename_i found
    apply Iff.intro
    · intro failed
      rw [← Except.error.inj failed]
      exact ⟨_, ⟨_, _, rfl, none_iff.1 found, rfl⟩, rfl⟩
    · rintro ⟨cause, ⟨_, _, -, -, rfl⟩, rfl⟩
      rfl

theorem bind_pure_eq_error_iff {α β : Type} {f : α → β} {result : Except Failure α}
    {failure : Failure} :
    (result >>= fun found => pure (f found)) = .error failure ↔ result = .error failure := by
  rw [bind_pure_comp]
  exact Operand.map_eq_error_iff

theorem slice_eq_error_iff {rule : RangeRule} {text : List Char} {start length : Int}
    {failure : Failure} :
    slice rule text start length = .error failure ↔
      rule = .reject ∧ ∃ cause, LeavesText text.length start length cause ∧
        failure = { cause } := by
  cases rule with
  | clamp => simp [slice]
  | reject =>
    rw [and_iff_right rfl]
    by_cases outside : start < 0 ∨ text.length < start
    · simp only [slice, if_pos outside, Except.error.injEq]
      apply Iff.intro
      · rintro rfl
        exact ⟨_, .start outside, rfl⟩
      · rintro ⟨cause, leaves, rfl⟩
        cases leaves with
        | start => rfl
        | finish inside beyond => omega
    · by_cases beyond : text.length < rangeEnd text.length start length
      · simp only [slice, if_neg outside, if_pos beyond, Except.error.injEq]
        apply Iff.intro
        · rintro rfl
          exact ⟨_, .finish (by omega) beyond, rfl⟩
        · rintro ⟨cause, leaves, rfl⟩
          cases leaves with
          | start outside' => exact absurd outside' outside
          | finish => rfl
      · simp only [slice, if_neg outside, if_neg beyond]
        apply iff_of_false
        · intro failed
          cases failed
        · intro ⟨cause, leaves, _⟩
          cases leaves with
          | start outside' => exact outside outside'
          | finish inside beyond' => exact beyond beyond'

theorem refusesRange_iff {settings : Settings} {text : String} {start length : Int}
    {cause : Cause} :
    refusesRange settings [.string text, .ofInt start, .ofInt length] cause ↔
      settings.ranges = .reject ∧ LeavesText text.toList.length start length cause := by
  apply Iff.intro
  · intro ⟨rule, text', start', length', same, leaves⟩
    simp only [List.cons.injEq, Value.string.injEq, Value.ofInt, Value.number.injEq,
      Decimal.ofInt_injective.eq_iff] at same
    obtain ⟨rfl, rfl, rfl, -⟩ := same
    exact ⟨rule, leaves⟩
  · intro ⟨rule, leaves⟩
    exact ⟨rule, text, start, length, rfl, leaves⟩

theorem substring_meets : Meets substring [.string, .integer, .integer] refusesRange := by
  intro settings arguments served
  obtain ⟨text, start, length, rfl⟩ := List.length_eq_three.1 served
  refine reports_bind (narrows_textOperand rfl) ?_
  intro characters narrowed
  apply reports_bind Operand.narrows_integer
  intro first narrowed'
  apply reports_bind Operand.narrows_integer
  intro count narrowed'' failure
  obtain ⟨string, rfl, rfl⟩ := exists_of_textOperand_eq_ok rfl narrowed
  obtain ⟨-, rfl⟩ := Operand.integer_eq_ok_iff.1 narrowed'
  obtain ⟨-, rfl⟩ := Operand.integer_eq_ok_iff.1 narrowed''
  rw [bind_pure_eq_error_iff, slice_eq_error_iff]
  simp only [refusesRange_iff, and_assoc, exists_and_left]

theorem sprintf_meets : Meets sprintf [.string, .array] refusesTemplate := by
  intro settings arguments served
  obtain ⟨template, items, rfl⟩ := List.length_eq_two.1 served
  refine reports_bind (narrows_textOperand rfl) ?_
  intro characters narrowed
  apply reports_bind Operand.narrows_array
  intro values narrowed' failure
  obtain ⟨string, rfl, rfl⟩ := exists_of_textOperand_eq_ok rfl narrowed
  obtain rfl := Operand.array_eq_ok_iff.1 narrowed'
  rw [bind_pure_eq_error_iff, Template.format_eq_error_iff]
  apply Iff.intro
  · rintro ⟨rule, first, later, found, rfl⟩
    exact ⟨_, ⟨rule, string, values, first, later, rfl, found, rfl⟩, rfl⟩
  · rintro ⟨cause, ⟨rule, _, _, first, later, same, found, rfl⟩, rfl⟩
    cases same
    exact ⟨rule, first, later, found, rfl⟩

/-! ## The table -/

/-- Every built-in has the name and the count of arguments of its contract and meets
it. -/
theorem builtins_meet_contracts :
    List.Forall₂ (fun builtin contract => builtin.name = contract.name ∧
      builtin.arity = contract.demands.length ∧
      Meets builtin.body contract.demands contract.refuses) builtins contracts :=
  .cons ⟨rfl, rfl, formatInt_meets⟩ <|
  .cons ⟨rfl, rfl, concat_meets⟩ <|
  .cons ⟨rfl, rfl, meets_of_two_texts _⟩ <|
  .cons ⟨rfl, rfl, substring_meets⟩ <|
  .cons ⟨rfl, rfl, meets_of_two_texts _⟩ <|
  .cons ⟨rfl, rfl, meets_of_two_texts _⟩ <|
  .cons ⟨rfl, rfl, meets_of_two_texts _⟩ <|
  .cons ⟨rfl, rfl, meets_of_text _⟩ <|
  .cons ⟨rfl, rfl, meets_of_text _⟩ <|
  .cons ⟨rfl, rfl, meets_of_two_texts _⟩ <|
  .cons ⟨rfl, rfl, replace_meets⟩ <|
  .cons ⟨rfl, rfl, meets_of_two_texts _⟩ <|
  .cons ⟨rfl, rfl, meets_of_two_texts _⟩ <|
  .cons ⟨rfl, rfl, meets_of_two_texts _⟩ <|
  .cons ⟨rfl, rfl, meets_of_two_texts _⟩ <|
  .cons ⟨rfl, rfl, meets_of_two_texts _⟩ <|
  .cons ⟨rfl, rfl, meets_of_text _⟩ <|
  .cons ⟨rfl, rfl, sprintf_meets⟩ .nil

theorem exists_left_of_forall₂ {α β : Type} {related : α → β → Prop} {lefts : List α}
    {rights : List β} (pairs : List.Forall₂ related lefts rights) {right : β}
    (inside : right ∈ rights) : ∃ left ∈ lefts, related left right := by
  induction pairs with
  | nil => cases inside
  | cons first _ ih =>
    rcases List.mem_cons.1 inside with rfl | inside
    · exact ⟨_, List.mem_cons_self, first⟩
    · obtain ⟨left, inside', holds⟩ := ih inside
      exact ⟨left, List.mem_cons_of_mem _ inside', holds⟩

/-- A call fails as the body does, and the body reports as its contract says. -/
theorem exists_reports_of_contract (settings : Settings) {contract : Contract}
    (listed : contract ∈ contracts) {arguments : List Value}
    (served : arguments.length = contract.demands.length) :
    ∃ result, Reports contract.demands 1 arguments (contract.refuses settings arguments) result ∧
      ∀ failure, (Catalogue.standard settings).call contract.name arguments = .failed failure ↔
        ∃ inner, result = .error inner ∧ failure = inner.inBuiltin contract.name := by
  obtain ⟨builtin, inside, name, arity, meets⟩ :=
    exists_left_of_forall₂ builtins_meet_contracts listed
  refine ⟨_, meets settings arguments served, ?_⟩
  intro failure
  rw [← name]
  exact Catalogue.call_eq_failed_iff (Catalogue.lookup_standard inside) (served.trans arity.symm)

theorem refuses_cases :
    ∀ contract ∈ contracts, contract.refuses = never ∨ contract.refuses = refusesBase ∨
      contract.refuses = refusesRange ∨ contract.refuses = refusesTemplate := by
  simp [contracts]

/-- No refusal is about the kind of an operand. -/
theorem cause_of_refuses {settings : Settings} {contract : Contract}
    (listed : contract ∈ contracts) {arguments : List Value} {cause : Cause}
    (refused : contract.refuses settings arguments cause) :
    (∃ legal, cause = .operandEnum 2 legal) ∨
      (∃ index length, cause = .indexOutOfBounds index length) ∨
      ∃ text, cause = .format text := by
  rcases refuses_cases contract listed with own | own | own | own
  · rw [own] at refused
    exact refused.elim
  · rw [own] at refused
    obtain ⟨_, _, _, _, rfl⟩ := refused
    exact Or.inl ⟨_, rfl⟩
  · rw [own] at refused
    obtain ⟨_, _, _, _, _, leaves⟩ := refused
    right
    left
    cases leaves with
    | start => exact ⟨_, _, rfl⟩
    | finish => exact ⟨_, _, rfl⟩
  · rw [own] at refused
    obtain ⟨_, _, _, _, _, _, _, rfl⟩ := refused
    exact Or.inr (Or.inr ⟨_, rfl⟩)

/-- Every call of a standard built-in with the right count of arguments fails for the
leftmost argument that the demand at its position rejects, with the cause of that
rejection and the name of the built-in.  Where no argument is rejected it fails just
with the refusals of the contract, and these are never about the kind of an operand. -/
theorem standard_call_failures :
    ∃ draft, Draft.standard? = .ok draft ∧
      (contracts.map fun contract => (contract.name, contract.demands.length)) =
        (builtins.map fun builtin => (builtin.name, builtin.arity)) ∧
      ∀ (settings : Settings), ∀ contract ∈ contracts, ∀ (arguments : List Value),
        arguments.length = contract.demands.length →
        (∀ index cause, RejectedAt 1 contract.demands arguments index cause →
          (∀ earlier < index, ∀ other,
            ¬ RejectedAt 1 contract.demands arguments earlier other) →
          (draft.withSettings settings).seal.call contract.name arguments =
            .failed { cause, context := some { builtin := some contract.name } }) ∧
        ((∀ index cause, ¬ RejectedAt 1 contract.demands arguments index cause) →
          ∀ failure,
            (draft.withSettings settings).seal.call contract.name arguments = .failed failure ↔
              ∃ cause, contract.refuses settings arguments cause ∧
                failure = { cause, context := some { builtin := some contract.name } }) ∧
        ∀ cause, contract.refuses settings arguments cause →
          (∃ legal, cause = .operandEnum 2 legal) ∨
            (∃ index length, cause = .indexOutOfBounds index length) ∨
            ∃ text, cause = .format text := by
  refine ⟨_, Draft.standard?_eq_ok, rfl, ?_⟩
  intro settings contract listed arguments served
  obtain ⟨result, reports, fails_iff⟩ := exists_reports_of_contract settings listed served
  refine ⟨?_, ?_, fun cause => cause_of_refuses listed⟩
  · intro index cause rejected leftmost
    exact (fails_iff _).2 ⟨_, reports.of_rejectedAt rejected leftmost, rfl⟩
  · intro accepted failure
    apply (fails_iff failure).trans
    apply Iff.intro
    · rintro ⟨inner, failed, rfl⟩
      obtain ⟨cause, refused, rfl⟩ := (reports.of_accepted accepted inner).1 failed
      exact ⟨cause, refused, rfl⟩
    · rintro ⟨cause, refused, rfl⟩
      exact ⟨_, (reports.of_accepted accepted _).2 ⟨cause, refused, rfl⟩, rfl⟩

theorem not_rejectedAt_nil (first index : Nat) (cause : Cause) :
    ¬ RejectedAt first [] [] index cause := by
  intro ⟨demand, value, no_demand, _⟩
  cases no_demand

/-- Of two bad operands of `substring` the left one is cited, and `format_int` refuses
the base three. -/
theorem standard_call_failures_cited :
    ∃ draft, Draft.standard? = .ok draft ∧
      (draft.withSettings .lenient).seal.call "substring" [.string "abc", .string "1", .null] =
        .failed
          { cause := .operandType 2 .string [.integer]
            context := some { builtin := some "substring" } } ∧
      (draft.withSettings .strict).seal.call "format_int" [.ofInt 5, .ofInt 3] =
        .failed
          { cause := .operandEnum 2 ["2", "8", "10", "16"]
            context := some { builtin := some "format_int" } } := by
  obtain ⟨draft, registered, _, calls⟩ := standard_call_failures
  refine ⟨draft, registered, ?_, ?_⟩
  · have listed : ⟨"substring", [.string, .integer, .integer], refusesRange⟩ ∈ contracts := by
      simp [contracts]
    refine (calls .lenient _ listed [.string "abc", .string "1", .null] rfl).1 1 _ ?_ ?_
    · refine ⟨.integer, .string "1", rfl, rfl, .operand ?_⟩
      intro ⟨word, _, same⟩
      cases same
    · intro earlier before cause rejected
      obtain rfl := Nat.lt_one_iff.1 before
      cases rejectedAt_zero_iff.1 rejected with
      | operand unfit => exact unfit rfl
  · have listed : ⟨"format_int", [.number, .number], refusesBase⟩ ∈ contracts := by
      simp [contracts]
    refine ((calls .strict _ listed [.ofInt 5, .ofInt 3] rfl).2.1 ?_ _).2
      ⟨_, ⟨_, _, rfl, by decide +kernel, rfl⟩, rfl⟩
    rintro (_ | _ | index) cause rejected
    · cases rejectedAt_zero_iff.1 rejected with
      | operand unfit => exact unfit rfl
    · cases rejectedAt_zero_iff.1 (rejectedAt_succ_iff.1 rejected) with
      | operand unfit => exact unfit rfl
    · exact not_rejectedAt_nil _ _ _
        (rejectedAt_succ_iff.1 (rejectedAt_succ_iff.1 rejected))

end PolicyBuiltins.Strings
