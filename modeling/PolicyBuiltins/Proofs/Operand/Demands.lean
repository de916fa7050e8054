/-
# What operands are rejected for

A built-in demands a number, a string, an integer, an array, or an array or set of
strings of each of its operands.  `Rejects` says of which values a demand is not met
and with which cause, without a word on how the operand is narrowed; each narrowing
fails with just these causes.

A set is rejected for its least member that is no string.  Which of several equal
members is met first does not show: they are rendered alike, so they have one kind.
-/

import PolicyBuiltins.Decimal.Lemmas
import PolicyBuiltins.Operand
import PolicyBuiltins.Proofs.Value.Faithful

namespace PolicyBuiltins

/-- What a built-in demands of an operand. -/
inductive Demand where
  | number
  | string
  | integer
  | array
  | strings
deriving DecidableEq, Repr

namespace Demand

/-- The kinds that an operand of another kind is told to have. -/
def expected : Demand → List Kind
  | number => [.number]
  | string => [.string]
  | integer => [.integer]
  | array => [.array]
  | strings => [.set, .array]

/-- What a demand admits, the elements of a collection left aside. -/
def Admits : Demand → Value → Prop
  | number, value => value.kind = .number
  | string, value => value.kind = .string
  | integer, value => ∃ word, IsWord word ∧ value = .ofInt word
  | array, value => value.kind = .array
  | strings, value => value.kind = .array ∨ value.kind = .set

end Demand

/-- The values that a demand rejects at a position, and the cause of it. -/
inductive Rejects : Demand → (position : Nat) → Value → Cause → Prop where
  /-- The value is nothing that the demand admits. -/
  | operand {demand : Demand} {position : Nat} {value : Value}
      (unfit : ¬ demand.Admits value) :
      Rejects demand position value (.operandType position value.kind demand.expected)
  /-- An item of an array is no string, and those in front of it are strings. -/
  | item {position : Nat} {front back : List Value} {item : Value}
      (strings : ∀ other ∈ front, other.kind = .string) (unfit : item.kind ≠ .string) :
      Rejects .strings position (.array (front ++ item :: back))
        (.operandElement position .array item.kind (.index front.length) .string)
  /-- A member of a set is no string, and is rendered before all others of which this
  holds. -/
  | member {position : Nat} {members : List Value} {member : Value}
      (inside : member ∈ members) (unfit : member.kind ≠ .string)
      (least : ∀ other ∈ members, other.kind ≠ .string →
        Text.precedes member.render other.render) :
      Rejects .strings position (.set members)
        (.operandElement position .set member.kind (.member (toString member)) .string)

/-- A narrowing fails with the causes for which a demand rejects the value. -/
def Narrows {α : Type} (demand : Demand) (position : Nat) (value : Value)
    (narrowed : Except Failure α) : Prop :=
  ∀ failure, narrowed = .error failure ↔
    ∃ cause, Rejects demand position value cause ∧ failure = { cause }

namespace Operand

variable {value : Value} {position : Nat}

/-! ## Operands of one kind -/

theorem rejects_iff_of_ne_strings {demand : Demand} (single : demand ≠ .strings)
    (cause : Cause) :
    Rejects demand position value cause ↔
      ¬ demand.Admits value ∧ cause = .operandType position value.kind demand.expected := by
  apply Iff.intro
  · intro rejected
    cases rejected with
    | operand unfit => exact ⟨unfit, rfl⟩
    | item => exact absurd rfl single
    | member => exact absurd rfl single
  · rintro ⟨unfit, rfl⟩
    exact .operand unfit

/-- A narrowing that gives a result where the demand admits the value, and else fails
for its kind, fails as the demand rejects. -/
theorem narrows_of_ne_strings {α : Type} {demand : Demand} (single : demand ≠ .strings)
    {narrowed : Except Failure α}
    (settled : (demand.Admits value ∧ ∃ result, narrowed = .ok result) ∨
      (¬ demand.Admits value ∧ narrowed = .error (wrongKind value position demand.expected))) :
    Narrows demand position value narrowed := by
  intro failure
  simp only [rejects_iff_of_ne_strings single]
  rcases settled with ⟨fit, result, rfl⟩ | ⟨unfit, rfl⟩
  · apply iff_of_false
    · intro failed
      cases failed
    · intro ⟨cause, ⟨unfit, _⟩, _⟩
      exact unfit fit
  · rw [Except.error.injEq]
    apply Iff.intro
    · rintro rfl
      exact ⟨_, ⟨unfit, rfl⟩, rfl⟩
    · rintro ⟨cause, ⟨-, rfl⟩, rfl⟩
      rfl

theorem number_eq_ok_iff {decimal : Decimal} :
    number value position = .ok decimal ↔ value = .number decimal := by
  cases value <;> simp [number]

theorem narrows_number : Narrows .number position value (number value position) := by
  apply narrows_of_ne_strings (by decide)
  cases value with
  | number decimal => exact Or.inl ⟨rfl, decimal, rfl⟩
  | _ => exact Or.inr ⟨(fun kind => nomatch kind), rfl⟩

theorem string_eq_ok_iff {text : String} :
    string value position = .ok text ↔ value = .string text := by
  cases value <;> simp [string]

theorem narrows_string : Narrows .string position value (string value position) := by
  apply narrows_of_ne_strings (by decide)
  cases value with
  | string text => exact Or.inl ⟨rfl, text, rfl⟩
  | _ => exact Or.inr ⟨(fun kind => nomatch kind), rfl⟩

theorem array_eq_ok_iff {items : List Value} :
    array value position = .ok items ↔ value = .array items := by
  cases value <;> simp [array]

theorem narrows_array : Narrows .array position value (array value position) := by
  apply narrows_of_ne_strings (by decide)
  cases value with
  | array items => exact Or.inl ⟨rfl, items, rfl⟩
  | _ => exact Or.inr ⟨(fun kind => nomatch kind), rfl⟩

theorem asNumber?_bind_toWord?_eq_some_iff {word : Int} :
    value.asNumber?.bind Decimal.toWord? = some word ↔ IsWord word ∧ value = .ofInt word := by
  cases value with
  | number decimal =>
    show decimal.toWord? = some word ↔ IsWord word ∧ Value.number decimal = .number (.ofInt word)
    rw [Decimal.toWord?_eq_some_iff, Value.number.injEq]
  | _ => exact iff_of_false (fun found => nomatch found) fun fits => nomatch fits.2

theorem integer_eq_ok_iff {word : Int} :
    integer value position = .ok word ↔ IsWord word ∧ value = .ofInt word := by
  rw [← asNumber?_bind_toWord?_eq_some_iff, integer]
  cases value.asNumber?.bind Decimal.toWord? <;> simp

theorem integer_eq_ok_iff_exists_number {word : Int} :
    integer value position = .ok word ↔
      ∃ number, value = .number number ∧ number.toWord? = some word := by
  rw [integer_eq_ok_iff]
  apply Iff.intro
  · rintro ⟨fits, rfl⟩
    exact ⟨_, rfl, Decimal.toWord?_eq_some_iff.2 ⟨fits, rfl⟩⟩
  · rintro ⟨number, rfl, held⟩
    obtain ⟨fits, rfl⟩ := Decimal.toWord?_eq_some_iff.1 held
    exact ⟨fits, rfl⟩

theorem integer_eq_error_iff {failure : Failure} :
    integer value position = .error failure ↔
      (∀ number, value = .number number → number.toWord? = none) ∧
        failure = wrongKind value position [.integer] := by
  have no_word_iff : value.asNumber?.bind Decimal.toWord? = none ↔
      ∀ number, value = .number number → number.toWord? = none := by
    cases value <;> simp [Value.asNumber?]
  rw [← no_word_iff, integer]
  cases value.asNumber?.bind Decimal.toWord? <;> simp [eq_comm]

theorem narrows_integer : Narrows .integer position value (integer value position) := by
  apply narrows_of_ne_strings (by decide)
  by_cases fit : Demand.integer.Admits value
  · obtain ⟨word, fits⟩ := fit
    exact Or.inl ⟨⟨word, fits⟩, word, integer_eq_ok_iff.2 fits⟩
  · right
    refine ⟨fit, ?_⟩
    rw [integer]
    cases found : value.asNumber?.bind Decimal.toWord? with
    | none => rfl
    | some word => exact absurd ⟨word, asNumber?_bind_toWord?_eq_some_iff.1 found⟩ fit

/-! ## Collections of strings -/

theorem exists_string_of_kind (kind : value.kind = .string) :
    ∃ text, value = .string text := by
  cases value with
  | string text => exact ⟨text, rfl⟩
  | _ => cases kind

theorem map_eq_error_iff {α β : Type} {f : α → β} {result : Except Failure α}
    {failure : Failure} : result.map f = .error failure ↔ result = .error failure := by
  cases result <;> simp [Except.map]

theorem stringItems_of_ne_string (unfit : value.kind ≠ .string) (index : Nat)
    (items : List Value) :
    stringItems position index (value :: items) =
      .error
        { cause := .operandElement position .array value.kind (.index index) .string } := by
  cases value with
  | string text => exact absurd rfl unfit
  | _ => rfl

/-- The items of an array are rejected for the first one that is no string. -/
theorem stringItems_eq_error_iff (index : Nat) (items : List Value) (failure : Failure) :
    stringItems position index items = .error failure ↔
      ∃ front item back, items = front ++ item :: back ∧
        (∀ other ∈ front, other.kind = .string) ∧ item.kind ≠ .string ∧
        failure =
          { cause := .operandElement position .array item.kind
              (.index (index + front.length)) .string } := by
  induction items generalizing index with
  | nil =>
    apply iff_of_false
    · intro failed
      cases failed
    · intro ⟨front, item, back, listed, _⟩
      exact List.append_ne_nil_of_right_ne_nil front (List.cons_ne_nil item back) listed.symm
  | cons first items ih =>
    by_cases string : first.kind = .string
    · obtain ⟨text, rfl⟩ := exists_string_of_kind string
      rw [stringItems, map_eq_error_iff, ih]
      apply Iff.intro
      · rintro ⟨front, item, back, rfl, alike, unfit, rfl⟩
        refine ⟨.string text :: front, item, back, rfl, ?_, unfit, ?_⟩
        · exact List.forall_mem_cons.2 ⟨rfl, alike⟩
        · rw [List.length_cons, Nat.add_right_comm, Nat.add_assoc]
      · rintro ⟨front, item, back, listed, alike, unfit, rfl⟩
        cases front with
        | nil =>
          rw [← (List.cons.inj listed).1] at unfit
          exact absurd rfl unfit
        | cons other front =>
          refine ⟨front, item, back, (List.cons.inj listed).2, ?_, unfit, ?_⟩
          · exact (List.forall_mem_cons.1 alike).2
          · rw [List.length_cons, Nat.add_right_comm, Nat.add_assoc]
    · rw [stringItems_of_ne_string string, Except.error.injEq]
      apply Iff.intro
      · rintro rfl
        exact ⟨[], first, items, rfl, List.forall_mem_nil _, string, rfl⟩
      · rintro ⟨front, item, back, listed, alike, unfit, rfl⟩
        cases front with
        | nil =>
          rw [(List.cons.inj listed).1]
          rfl
        | cons other front =>
          rw [(List.cons.inj listed).1] at string
          exact absurd (alike other List.mem_cons_self) string

theorem isNone_asString?_iff : value.asString?.isNone = true ↔ value.kind ≠ .string := by
  cases value <;> simp [Value.asString?, Value.kind]

theorem stringMembers_eq_error_iff (members : List Value) (failure : Failure) :
    stringMembers position members = .error failure ↔
      ∃ member ∈ members, member.kind ≠ .string ∧
        (∀ other ∈ members, other.kind ≠ .string →
          Text.precedes member.render other.render) ∧
        failure =
          { cause := .operandElement position .set member.kind
              (.member (toString member)) .string } := by
  have offending_iff (member : Value) :
      member ∈ (Value.distinct members).filter (·.asString?.isNone) ↔
        member ∈ Value.distinct members ∧ member.kind ≠ .string := by
    rw [List.mem_filter, isNone_asString?_iff]
  have offends {member : Value} (inside : member ∈ members) (unfit : member.kind ≠ .string) :
      ∃ other ∈ (Value.distinct members).filter (·.asString?.isNone),
        other.render = member.render := by
    obtain ⟨other, distinct, alike⟩ := Value.exists_mem_distinct inside
    rw [← Value.kind_eq_of_render_eq alike] at unfit
    exact ⟨other, (offending_iff other).2 ⟨distinct, unfit⟩, alike⟩
  simp only [stringMembers]
  cases listed : Text.sortedByText
      (((Value.distinct members).filter (·.asString?.isNone)).map
        fun member => (member.render, member)) with
  | nil =>
    apply iff_of_false
    · intro failed
      cases failed
    · intro ⟨member, inside, unfit, _⟩
      obtain ⟨other, offending, -⟩ := offends inside unfit
      have perm := Text.sortedByText_perm
        (((Value.distinct members).filter (·.asString?.isNone)).map
          fun member => (member.render, member))
      rw [listed] at perm
      exact List.not_mem_nil (perm.mem_iff.2 (List.mem_map_of_mem offending))
  | cons first others =>
    obtain ⟨found, least⟩ := Text.least_of_sortedByText_eq_cons listed
    obtain ⟨member, offending, rfl⟩ := List.mem_map.1 found
    obtain ⟨distinct, unfit⟩ := (offending_iff member).1 offending
    have inside := Value.mem_of_mem_keepFlagged distinct
    have precedes {other : Value} (inside' : other ∈ members) (unfit' : other.kind ≠ .string) :
        Text.precedes member.render other.render := by
      obtain ⟨alike, offending', same⟩ := offends inside' unfit'
      rw [← same]
      exact least _ (List.mem_map_of_mem offending')
    rw [Except.error.injEq]
    apply Iff.intro
    · rintro rfl
      exact ⟨member, inside, unfit, fun other => precedes, rfl⟩
    · rintro ⟨member', inside', unfit', least', rfl⟩
      have same : member.render = member'.render :=
        Text.precedes_antisymm (precedes inside' unfit') (least' member inside unfit)
      have same_text : toString member = toString member' := congrArg String.ofList same
      rw [← Value.kind_eq_of_render_eq same, ← same_text]
      rfl

theorem narrows_strings : Narrows .strings position value (strings value position) := by
  intro failure
  cases value with
  | array items =>
    rw [strings, stringItems_eq_error_iff]
    apply Iff.intro
    · rintro ⟨front, item, back, rfl, alike, unfit, rfl⟩
      rw [Nat.zero_add]
      exact ⟨_, .item alike unfit, rfl⟩
    · rintro ⟨cause, rejected, rfl⟩
      cases rejected with
      | operand unfit => exact absurd (Or.inl rfl) unfit
      | item alike unfit => exact ⟨_, _, _, rfl, alike, unfit, by rw [Nat.zero_add]⟩
  | set members =>
    rw [strings, stringMembers_eq_error_iff]
    apply Iff.intro
    · rintro ⟨member, inside, unfit, least, rfl⟩
      exact ⟨_, .member inside unfit least, rfl⟩
    · rintro ⟨cause, rejected, rfl⟩
      cases rejected with
      | operand unfit => exact absurd (Or.inr rfl) unfit
      | member inside unfit least => exact ⟨_, inside, unfit, least, rfl⟩
  | _ =>
    apply Iff.intro
    · intro failed
      rw [← Except.error.inj failed]
      exact ⟨_, .operand fun admitted => by cases admitted <;> contradiction, rfl⟩
    · rintro ⟨cause, rejected, rfl⟩
      cases rejected with
      | operand unfit => rfl

end Operand

end PolicyBuiltins
