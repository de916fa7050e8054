/-
# Equality is equality of renderings

The canonical rendering of a value tells its kind, and between values of one kind it
tells them apart exactly as equality does.  So the rendering may stand for the value:
it is the same for equal values, in whatever order sets and objects are listed, and it
is never shared by two that differ.
-/

import PolicyBuiltins.Proofs.Value.Canonical

namespace PolicyBuiltins.Value

/-! ## Kinds -/

/-- The kind that the first character of a rendering stands for.  A brace also opens a
set that has members. -/
def kindAt (c : Char) : Kind :=
  match c with
  | 'n' => .null
  | 't' => .boolean
  | 'f' => .boolean
  | 's' => .set
  | '"' => .string
  | '[' => .array
  | '\x7b' => .object
  | _ => .number

theorem kindAt_of_mem_text {number : Decimal} {c : Char} (member : c ∈ number.text) :
    kindAt c = .number := by
  rcases Decimal.mem_text member with rfl | rfl | digit
  · rfl
  · rfl
  · have plain : ∀ mark ∈ ['n', 't', 'f', 's', '"', '[', '\x7b'], c ≠ mark := by
      rintro mark listed rfl
      have no_digit : ∀ mark ∈ ['n', 't', 'f', 's', '"', '[', '\x7b'],
          mark.isDigit = false := by simp
      rw [no_digit c listed] at digit
      cases digit
    rw [kindAt] <;> exact fun same => plain _ (by decide) same

/-- Either the first character of a rendering tells the kind, or the value is a set
that has members and opens with a brace. -/
theorem kind_eq_kindAt_or (value : Value) :
    (∃ c rest, value.render = c :: rest ∧ value.kind = kindAt c) ∨
      ∃ members, members ≠ [] ∧ value = .set members := by
  cases value with
  | null => exact Or.inl ⟨'n', "ull".toList, by simp [render_null], rfl⟩
  | bool truth =>
    cases truth with
    | true => exact Or.inl ⟨'t', "rue".toList, by simp [render_bool], rfl⟩
    | false => exact Or.inl ⟨'f', "alse".toList, by simp [render_bool], rfl⟩
  | number decimal =>
    left
    rw [render_number]
    cases text : decimal.text with
    | nil => exact absurd text (Decimal.text_ne_nil decimal)
    | cons c rest =>
      have member : c ∈ decimal.text := text ▸ List.mem_cons_self
      exact ⟨c, rest, rfl, (kindAt_of_mem_text member).symm⟩
  | string text => exact Or.inl ⟨'"', _, render_string text, rfl⟩
  | array items => exact Or.inl ⟨'[', _, render_array items, rfl⟩
  | object entries => exact Or.inl ⟨'\x7b', _, render_object entries, rfl⟩
  | set members =>
    cases members with
    | nil => exact Or.inl ⟨'s', "et()".toList, by simp [render_empty_set], rfl⟩
    | cons member members => exact Or.inr ⟨_, List.cons_ne_nil _ _, rfl⟩

/-- What is rendered like a set that has members is a set. -/
theorem kind_eq_set_of_render_eq {members : List Value} (nonempty : members ≠ [])
    {value : Value} (same : value.render = render (.set members)) : value.kind = .set := by
  rcases kind_eq_kindAt_or value with ⟨c, rest, rendered, kind⟩ | ⟨others, -, rfl⟩
  · have opening : c = '\x7b' := by
      rw [rendered, render_set nonempty] at same
      exact (List.cons.inj same).1
    rw [opening] at kind
    cases value with
    | object entries =>
      have apart : render (.set members) ++ [] ≠ render (.object entries) ++ [] :=
        render_set_append_ne_object nonempty
          (fun member _ entry _ => separable_render member entry.1) [] []
      rw [List.append_nil, List.append_nil] at apart
      exact absurd same.symm apart
    | _ => cases kind
  · rfl

/-- Values of different kinds are rendered differently. -/
theorem kind_eq_of_render_eq {first second : Value} (same : first.render = second.render) :
    first.kind = second.kind := by
  rcases kind_eq_kindAt_or first with ⟨c, rest, rendered, kind⟩ | ⟨members, nonempty, rfl⟩
  · rcases kind_eq_kindAt_or second with ⟨d, rest', rendered', kind'⟩ | ⟨others, nonempty, rfl⟩
    · rw [rendered, rendered'] at same
      rw [kind, kind', (List.cons.inj same).1]
    · exact kind_eq_set_of_render_eq nonempty same
  · exact (kind_eq_set_of_render_eq nonempty same.symm).symm

theorem kind_eq_of_equal {first second : Value} (same : first.equal second = true) :
    first.kind = second.kind := by
  cases first <;> cases second <;> first | rfl | simp [equal] at same

/-! ## Sizes of parts -/

section Sizes

variable {bound : Nat}

theorem sizeOf_item_lt {items : List Value} (small : sizeOf (Value.array items) < bound + 1)
    {item : Value} (inside : item ∈ items) : sizeOf item < bound := by
  have smaller := List.sizeOf_lt_of_mem inside
  rw [Value.array.sizeOf_spec] at small
  omega

theorem sizeOf_member_lt {members : List Value}
    (small : sizeOf (Value.set members) < bound + 1) {member : Value}
    (inside : member ∈ members) : sizeOf member < bound := by
  have smaller := List.sizeOf_lt_of_mem inside
  rw [Value.set.sizeOf_spec] at small
  omega

theorem sizeOf_entry_lt {entries : List (Value × Value)}
    (small : sizeOf (Value.object entries) < bound + 1) {entry : Value × Value}
    (inside : entry ∈ entries) : sizeOf entry.1 < bound ∧ sizeOf entry.2 < bound := by
  have smaller := List.sizeOf_lt_of_mem inside
  obtain ⟨key, value⟩ := entry
  rw [Prod.mk.sizeOf_spec] at smaller
  rw [Value.object.sizeOf_spec] at small
  exact ⟨show sizeOf key < bound by omega, show sizeOf value < bound by omega⟩

end Sizes

/-! ## Faithfulness -/

theorem enclosed_inj {opening closing : Char} (boundary : Text.isBoundary closing = true)
    (no_comma : closing ≠ ',') {texts others : List (List Char)}
    (listings : SeparableListings texts others) :
    enclosed opening closing texts = enclosed opening closing others ↔ texts = others := by
  apply Iff.intro
  · intro same
    exact (enclosed_append_inj boundary no_comma listings (congrArg (· ++ []) same)).1
  · exact congrArg _

/-- The empty set is a word and no listing. -/
theorem render_empty_set_ne {members : List Value} (nonempty : members ≠ []) :
    render (.set []) ≠ render (.set members) := by
  rw [render_set nonempty, render_empty_set]
  exact fun same => absurd (List.cons.inj same).1 (by decide)

section Parts

variable {part : Value → Prop}
  (faithful : ∀ {first second : Value}, part first → part second → Faithful first second)

include faithful

theorem faithful_array {items others : List Value} (parts : ∀ item ∈ items, part item)
    (parts' : ∀ other ∈ others, part other) : Faithful (.array items) (.array others) := by
  rw [Faithful, equal_array_iff faithful parts parts', render_array, render_array,
    enclosed_inj rfl (by decide)
      (separableListings_items fun item _ other _ => separable_render item other)]

theorem faithful_object {entries others : List (Value × Value)}
    (parts : ∀ entry ∈ entries, part entry.1 ∧ part entry.2)
    (parts' : ∀ other ∈ others, part other.1 ∧ part other.2) :
    Faithful (.object entries) (.object others) := by
  rw [Faithful, equal_object_iff faithful parts parts', render_object, render_object,
    enclosed_inj rfl (by decide)
      (separableListings_entries (fun entry _ other _ => separable_render entry.1 other.1)
        fun entry _ other _ => separable_render entry.2 other.2),
    entryTexts_eq_iff faithful (fun entry inside => (parts entry inside).1)
      fun other inside => (parts' other inside).1]

theorem faithful_set {members others : List Value} (parts : ∀ member ∈ members, part member)
    (parts' : ∀ other ∈ others, part other) : Faithful (.set members) (.set others) := by
  rw [Faithful, equal_set_iff faithful parts parts']
  cases members with
  | nil =>
    cases others with
    | nil => exact iff_of_true (fun _ => Iff.rfl) rfl
    | cons other others =>
      apply iff_of_false
      · intro same
        exact List.not_mem_nil ((same other.render).2 List.mem_cons_self)
      · exact render_empty_set_ne (List.cons_ne_nil _ _)
  | cons member members =>
    cases others with
    | nil =>
      apply iff_of_false
      · intro same
        exact List.not_mem_nil ((same member.render).1 List.mem_cons_self)
      · exact (render_empty_set_ne (List.cons_ne_nil _ _)).symm
    | cons other others =>
      rw [render_set (List.cons_ne_nil _ _), render_set (List.cons_ne_nil _ _),
        enclosed_inj rfl (by decide)
          (separableListings_members fun member _ other _ => separable_render member other),
        memberTexts_eq_iff faithful parts parts']

end Parts

theorem faithful_bool (truth truth' : Bool) : Faithful (.bool truth) (.bool truth') := by
  rw [Faithful, equal, render_bool, render_bool]
  cases truth <;> cases truth' <;> decide

theorem faithful_number (decimal decimal' : Decimal) :
    Faithful (.number decimal) (.number decimal') := by
  rw [Faithful, equal, render_number, render_number, beq_iff_eq, Decimal.text_injective.eq_iff]

theorem faithful_string (text text' : String) : Faithful (.string text) (.string text') := by
  rw [Faithful, equal, render_string, render_string, beq_iff_eq]
  apply Iff.intro
  · intro same
    rw [same]
  · intro same
    exact String.toList_inj.1 (Text.quoted_append_inj (congrArg (· ++ []) same))

/-- Values below a size are equal exactly when they are rendered alike.  The induction
is on the size that bounds both. -/
theorem faithful_of_sizeOf_lt (bound : Nat) {first second : Value} (small : sizeOf first < bound)
    (small' : sizeOf second < bound) : Faithful first second := by
  induction bound generalizing first second with
  | zero => exact absurd small (Nat.not_lt_zero _)
  | succ bound ih =>
    by_cases kinds : first.kind = second.kind
    · cases first with
      | null =>
        cases second with
        | null => exact iff_of_true rfl rfl
        | _ => cases kinds
      | bool truth =>
        cases second with
        | bool truth' => exact faithful_bool truth truth'
        | _ => cases kinds
      | number decimal =>
        cases second with
        | number decimal' => exact faithful_number decimal decimal'
        | _ => cases kinds
      | string text =>
        cases second with
        | string text' => exact faithful_string text text'
        | _ => cases kinds
      | array items =>
        cases second with
        | array others =>
          apply faithful_array ih
          · intro item inside
            exact sizeOf_item_lt small inside
          · intro other inside
            exact sizeOf_item_lt small' inside
        | _ => cases kinds
      | object entries =>
        cases second with
        | object others =>
          apply faithful_object ih
          · intro entry inside
            exact sizeOf_entry_lt small inside
          · intro other inside
            exact sizeOf_entry_lt small' inside
        | _ => cases kinds
      | set members =>
        cases second with
        | set others =>
          apply faithful_set ih
          · intro member inside
            exact sizeOf_member_lt small inside
          · intro other inside
            exact sizeOf_member_lt small' inside
        | _ => cases kinds
    · -- Neither equality nor rendering mixes kinds.
      exact iff_of_false (mt kind_eq_of_equal kinds) (mt kind_eq_of_render_eq kinds)

/-- Values are equal exactly when their canonical renderings are. -/
theorem equal_iff_render_eq (first second : Value) :
    first.equal second = true ↔ first.render = second.render :=
  faithful_of_sizeOf_lt (sizeOf first + sizeOf second + 1) (by omega) (by omega)

/-- Every member of a listing is rendered like one of the distinct members. -/
theorem exists_mem_distinct {members : List Value} {member : Value}
    (inside : member ∈ members) :
    ∃ other ∈ distinct members, other.render = member.render := by
  have faithful {first second : Value} (_ : True) (_ : True) : Faithful first second :=
    equal_iff_render_eq first second
  have listed : member.render ∈ keepFlagged (newness members) (members.map render) := by
    rw [newness, mem_keepFlagged_newnessAfter faithful (fun _ _ => trivial) fun _ _ => trivial]
    exact ⟨List.mem_map_of_mem inside, List.not_mem_nil⟩
  rw [keepFlagged_map] at listed
  exact List.mem_map.1 listed

/-- The text of a value is faithful: two values are equal if and only if their texts
are. -/
theorem beq_iff_toString_eq (first second : Value) :
    (first == second) = true ↔ toString first = toString second := by
  show first.equal second = true ↔ String.ofList first.render = String.ofList second.render
  rw [String.ofList_inj]
  exact equal_iff_render_eq first second

end PolicyBuiltins.Value
