/-
# The strings of a set, in whatever order it is met

The members of a set are met in an order that nothing fixes.  `Gathers` says what may come of
it when they are gone through in one order: the failure for any member that is rendered before
all others of those that are no strings, or the strings in any arrangement that ascends.
Different values have different renderings, so neither leaves a choice, and the result is that
of the operand, for every enumeration.
-/

import Mathlib.Data.List.Perm.Basic
import PolicyBuiltins.Proofs.Operand.Demands
import PolicyBuiltins.Proofs.Text.ByteOrder
import PolicyBuiltins.Proofs.Value.Enumeration

namespace PolicyBuiltins.Operand

open Value (Enumerates)

/-- The failure for a member of a set that is no string. -/
def unfitMember (position : Nat) (member : Value) : Failure :=
  { cause := .operandElement position .set member.kind (.member (toString member)) .string }

/-- Of the members that are no strings, none is rendered before this one. -/
structure IsLeastUnfit (member : Value) (members : List Value) : Prop where
  inside : member ∈ members
  unfit : member.kind ≠ .string
  least : ∀ other ∈ members, other.kind ≠ .string →
    ¬ Text.bytes (toString other) < Text.bytes (toString member)

/-- What may come of gathering the strings of members in the order in which they are met. -/
inductive Gathers (position : Nat) (order : List Value) : Except Failure (List String) → Prop where
  | unfit {member : Value} (least : IsLeastUnfit member order) :
      Gathers position order (.error (unfitMember position member))
  | strings {texts : List String} (rearranged : (texts.map Value.string).Perm order)
      (ascending : texts.Pairwise fun first second =>
        ¬ Text.bytes second < Text.bytes first) :
      Gathers position order (.ok texts)

variable {position : Nat} {members order : List Value}

/-! ## Nothing is left to choice -/

theorem precedes_render_iff (first second : Value) :
    Text.precedes first.render second.render = true ↔
      ¬ Text.bytes (toString second) < Text.bytes (toString first) := by
  rw [← Text.precedes_iff_not_bytes_lt]
  simp only [toString, String.toList_ofList]

/-- Strings that are rearranged and ascend are determined. -/
theorem eq_of_perm_of_ascending {texts others : List String}
    (perm : (texts.map Value.string).Perm (others.map Value.string))
    (ascending : texts.Pairwise fun first second => ¬ Text.bytes second < Text.bytes first)
    (ascending' : others.Pairwise fun first second => ¬ Text.bytes second < Text.bytes first) :
    texts = others := by
  have perm : texts.Perm others :=
    (List.map_perm_map_iff fun _ _ same => Value.string.inj same).1 perm
  refine perm.eq_of_pairwise (fun first second _ _ early late => ?_) ascending ascending'
  rw [← Text.precedes_iff_not_bytes_lt] at early late
  exact String.toList_inj.1 (Text.precedes_antisymm early late)

theorem IsLeastUnfit.unfitMember_eq {member other : Value} (least : IsLeastUnfit member order)
    (least' : IsLeastUnfit other order) :
    unfitMember position member = unfitMember position other := by
  have early := least.least other least'.inside least'.unfit
  have late := least'.least member least.inside least.unfit
  rw [← precedes_render_iff] at early late
  have same := Text.precedes_antisymm early late
  have same_text : toString member = toString other := congrArg String.ofList same
  rw [unfitMember, unfitMember, same_text, Value.kind_eq_of_render_eq same]

theorem IsLeastUnfit.not_strings {member : Value} (least : IsLeastUnfit member order)
    {texts : List String} : ¬ (texts.map Value.string).Perm order := by
  intro rearranged
  obtain ⟨text, -, rfl⟩ := List.mem_map.1 (rearranged.mem_iff.2 least.inside)
  exact least.unfit rfl

theorem Gathers.unique {result result' : Except Failure (List String)}
    (gathers : Gathers position order result) (gathers' : Gathers position order result') :
    result = result' := by
  cases gathers with
  | unfit least =>
    cases gathers' with
    | unfit least' => rw [least.unfitMember_eq least']
    | strings rearranged => exact absurd rearranged least.not_strings
  | strings rearranged ascending =>
    cases gathers' with
    | unfit least => exact absurd rearranged least.not_strings
    | strings rearranged' ascending' =>
      rw [eq_of_perm_of_ascending (rearranged.trans rearranged'.symm) ascending ascending']

/-! ## The operand -/

theorem exists_map_string {values : List Value}
    (strings : ∀ value ∈ values, value.kind = .string) :
    ∃ texts : List String, values = texts.map Value.string := by
  induction values with
  | nil => exact ⟨[], rfl⟩
  | cons value values ih =>
    obtain ⟨own, behind⟩ := List.forall_mem_cons.1 strings
    obtain ⟨text, rfl⟩ := exists_string_of_kind own
    obtain ⟨texts, rfl⟩ := ih behind
    exact ⟨text :: texts, rfl⟩

/-- Strings are all handed over, in ascending order. -/
theorem stringMembers_of_distinct_eq {texts : List String}
    (listed : Value.distinct members = texts.map Value.string) :
    stringMembers position members =
      .ok ((Text.sorted (texts.map String.toList)).map String.ofList) := by
  have none_unfit : (texts.map Value.string).filter (·.asString?.isNone) = [] := by
    simp [List.filter_eq_nil_iff, Value.asString?]
  have all_strings : (texts.map Value.string).filterMap Value.asString? = texts := by
    rw [List.filterMap_map]
    exact List.filterMap_some
  simp only [stringMembers, listed, none_unfit, all_strings, List.map_nil, Text.sortedByText,
    List.mergeSort_nil]

theorem stringMembers_eq_error_iff_isLeastUnfit {failure : Failure} :
    stringMembers position members = .error failure ↔
      ∃ member, IsLeastUnfit member members ∧ failure = unfitMember position member := by
  rw [stringMembers_eq_error_iff]
  simp only [precedes_render_iff]
  apply Iff.intro
  · rintro ⟨member, inside, unfit, least, rfl⟩
    exact ⟨member, ⟨inside, unfit, least⟩, rfl⟩
  · rintro ⟨member, ⟨inside, unfit, least⟩, rfl⟩
    exact ⟨member, inside, unfit, least, rfl⟩

/-- A set with a member that is no string is refused. -/
theorem exists_isLeastUnfit (unfit : ∃ member ∈ members, member.kind ≠ .string) :
    ∃ member, IsLeastUnfit member members := by
  obtain ⟨member, inside, unfit⟩ := unfit
  obtain ⟨other, distinct, alike⟩ := Value.exists_mem_distinct inside
  rw [← Value.kind_eq_of_render_eq alike, ← isNone_asString?_iff] at unfit
  have offending : other ∈ (Value.distinct members).filter (·.asString?.isNone) :=
    List.mem_filter.2 ⟨distinct, unfit⟩
  cases gathered : stringMembers 0 members with
  | error failure =>
    obtain ⟨least, is_least, -⟩ := stringMembers_eq_error_iff_isLeastUnfit.1 gathered
    exact ⟨least, is_least⟩
  | ok texts =>
    simp only [stringMembers] at gathered
    split at gathered
    next => cases gathered
    next sorted =>
      have perm := Text.sortedByText_perm
        (((Value.distinct members).filter (·.asString?.isNone)).map
          fun member => (member.render, member))
      rw [sorted] at perm
      exact absurd (perm.mem_iff.2 (List.mem_map_of_mem offending)) List.not_mem_nil

/-- The member that is cited is met in every enumeration, in one form or another. -/
theorem IsLeastUnfit.exists_met {member : Value} (is_least : IsLeastUnfit member members)
    (enumerates : Enumerates order members) :
    ∃ met, IsLeastUnfit met order ∧ unfitMember position met = unfitMember position member := by
  obtain ⟨inside, unfit, least⟩ := is_least
  obtain ⟨met, met_inside, same⟩ := enumerates.covers member inside
  have alike := (Value.equal_iff_render_eq member met).1 same
  have alike_text : toString member = toString met := congrArg String.ofList alike
  have kinds := Value.kind_eq_of_render_eq alike
  refine ⟨met, ⟨met_inside, kinds ▸ unfit, ?_⟩, by rw [unfitMember, unfitMember, alike_text, kinds]⟩
  intro other other_inside other_unfit
  obtain ⟨listed, listed_inside, same'⟩ := enumerates.within other other_inside
  have alike' := (Value.equal_iff_render_eq other listed).1 same'
  have alike_text' : toString other = toString listed := congrArg String.ofList alike'
  rw [alike_text', ← alike_text]
  exact least listed listed_inside (Value.kind_eq_of_render_eq alike' ▸ other_unfit)

/-- What the operand gives may come of every enumeration of the set. -/
theorem gathers_stringMembers (enumerates : Enumerates order members) :
    Gathers position order (stringMembers position members) := by
  by_cases strings : ∀ member ∈ members, member.kind = .string
  · have distinct_strings : ∀ member ∈ Value.distinct members, member.kind = .string :=
      fun member kept => strings member (Value.mem_of_mem_keepFlagged kept)
    obtain ⟨texts, listed⟩ := exists_map_string distinct_strings
    rw [stringMembers_of_distinct_eq listed]
    refine .strings ?_ ?_
    · -- The strings in order are those met, because only one value is rendered like a string.
      have renderings := (Value.enumerates_distinct members).render_perm enumerates
      have met : ((Value.distinct members).map id).Perm (order.map id) :=
        Value.map_perm_of_key_perm renderings fun value kept other _ same => by
          rw [listed] at kept
          obtain ⟨text, -, rfl⟩ := List.mem_map.1 kept
          exact (Value.eq_string_of_render_eq same.symm).symm
      rw [List.map_id, List.map_id, listed] at met
      have sorted := (Text.sorted_perm (texts.map String.toList)).map String.ofList
      have unchanged : String.ofList ∘ String.toList = id := funext fun _ => String.ofList_toList
      rw [List.map_map, unchanged, List.map_id] at sorted
      exact (sorted.map Value.string).trans met
    · rw [List.pairwise_map]
      refine (Text.sorted_pairwise _).imp fun before => ?_
      rw [← Text.precedes_iff_not_bytes_lt, String.toList_ofList, String.toList_ofList]
      exact before
  · simp only [not_forall] at strings
    obtain ⟨member, inside, unfit⟩ := strings
    obtain ⟨least, is_least⟩ := exists_isLeastUnfit ⟨member, inside, unfit⟩
    obtain ⟨met, is_met⟩ := is_least.exists_met enumerates
    rw [stringMembers_eq_error_iff_isLeastUnfit.2 ⟨least, is_least, rfl⟩, ← is_met.2]
    exact .unfit is_met.1

/-- Every enumeration of a set leads to what the operand gives, and to nothing else. -/
theorem gathers_iff {result : Except Failure (List String)}
    (enumerates : Enumerates order members) :
    Gathers position order result ↔ strings (.set members) position = result := by
  have gathers : Gathers position order (strings (.set members) position) :=
    gathers_stringMembers enumerates
  apply Iff.intro
  · exact gathers.unique
  · rintro rfl
    exact gathers

/-- Strings that are met once each are not repeated when they are rearranged. -/
theorem nodup_of_perm_enumeration {texts : List String} (enumerates : Enumerates order members)
    (rearranged : (texts.map Value.string).Perm order) : texts.Nodup := by
  have nodup := (Value.enumerates_iff.1 enumerates).1
  rw [← (rearranged.map Value.render).nodup_iff, List.map_map] at nodup
  exact nodup.of_map _

/-- The strings that a set gives are its members, each once, rearranged. -/
theorem strings_set_eq_ok {texts : List String}
    (given : strings (.set members) position = .ok texts) :
    (texts.map Value.string).Perm (Value.distinct members) ∧
      texts.Pairwise fun first second => Text.bytes first < Text.bytes second := by
  have enumerates := Value.enumerates_distinct members
  have gathers := (gathers_iff enumerates).2 given
  cases gathers with
  | strings rearranged ascending =>
    have nodup := nodup_of_perm_enumeration enumerates rearranged
    refine ⟨rearranged, (ascending.and nodup).imp fun {first second} ⟨ordered, differ⟩ => ?_⟩
    exact Text.bytes_lt_of_precedes (Text.precedes_iff_not_bytes_lt.2 ordered) differ

/-- A set of strings gives each of them once, in ascending order. -/
theorem exists_strings_set (all_strings : ∀ member ∈ members, member.kind = .string) :
    ∃ texts, strings (.set members) position = .ok texts ∧
      (texts.Pairwise fun first second => Text.bytes first < Text.bytes second) ∧
      ∀ value, value ∈ members ↔ ∃ text ∈ texts, value = .string text := by
  cases given : strings (.set members) position with
  | error failure =>
    obtain ⟨member, least, -⟩ := stringMembers_eq_error_iff_isLeastUnfit.1 given
    exact absurd (all_strings member least.inside) least.unfit
  | ok texts =>
    obtain ⟨rearranged, ascending⟩ := strings_set_eq_ok given
    refine ⟨texts, rfl, ascending, fun value => ⟨?_, ?_⟩⟩
    · intro inside
      obtain ⟨text, rfl⟩ := exists_string_of_kind (all_strings value inside)
      obtain ⟨other, kept, same⟩ := (Value.enumerates_distinct members).covers _ inside
      rw [Value.eq_string_of_render_eq ((Value.equal_iff_render_eq _ _).1 same).symm] at kept
      obtain ⟨listed, inside, same⟩ := List.mem_map.1 (rearranged.mem_iff.2 kept)
      exact ⟨listed, inside, same.symm⟩
    · rintro ⟨text, inside, rfl⟩
      exact Value.mem_of_mem_keepFlagged (rearranged.mem_iff.1 (List.mem_map_of_mem inside))

theorem stringItems_eq_ok_iff (index : ℕ) (items : List Value) (texts : List String) :
    stringItems position index items = .ok texts ↔ items = texts.map Value.string := by
  induction items generalizing index texts with
  | nil => cases texts <;> simp [stringItems]
  | cons item items ih =>
    by_cases string : item.kind = .string
    · obtain ⟨text, rfl⟩ := exists_string_of_kind string
      rw [stringItems]
      cases texts with
      | nil => cases later : stringItems position (index + 1) items <;> simp [Except.map]
      | cons other texts =>
        rw [List.map_cons, List.cons.injEq, ← ih (index + 1) texts]
        cases later : stringItems position (index + 1) items <;> simp [Except.map, eq_comm]
    · rw [stringItems_of_ne_string string]
      apply iff_of_false
      · intro given
        cases given
      · intro listed
        cases texts with
        | nil => cases listed
        | cons text texts => exact string ((List.cons.inj listed).1 ▸ rfl)

/-- Arrays of items that are rendered alike give the same. -/
theorem stringItems_eq_of_render_eq (index : ℕ) {items others : List Value}
    (same : items.map Value.render = others.map Value.render) :
    stringItems position index items = stringItems position index others := by
  induction items generalizing index others with
  | nil => rw [List.map_eq_nil_iff.1 same.symm]
  | cons item items ih =>
    cases others with
    | nil => cases same
    | cons other others =>
      obtain ⟨head, tail⟩ := List.cons.inj same
      by_cases string : item.kind = .string
      · obtain ⟨text, rfl⟩ := exists_string_of_kind string
        rw [Value.eq_string_of_render_eq head.symm, stringItems, stringItems, ih (index + 1) tail]
      · have kinds := Value.kind_eq_of_render_eq head
        rw [stringItems_of_ne_string string, stringItems_of_ne_string (kinds ▸ string), kinds]

theorem strings_of_no_collection {value : Value} (other : value.kind ∉ [Kind.array, .set]) :
    strings value position = .error (wrongKind value position [.set, .array]) := by
  cases value with
  | array items => exact absurd List.mem_cons_self other
  | set members => exact absurd (List.mem_cons_of_mem _ List.mem_cons_self) other
  | _ => rfl

/-- Equal values give the same strings, or the same failure. -/
theorem strings_eq_of_equal {first second : Value} (same : first.equal second = true) :
    strings first position = strings second position := by
  have kinds := Value.kind_eq_of_equal same
  cases first with
  | array items =>
    cases second with
    | array others =>
      exact stringItems_eq_of_render_eq 0 ((Value.equal_array_iff Value.faithful_of_true
        (fun _ _ => trivial) fun _ _ => trivial).1 same)
    | _ => cases kinds
  | set members =>
    cases second with
    | set others =>
      have enumerates := Value.enumerates_distinct members
      exact ((gathers_iff enumerates).1 ((gathers_iff (enumerates.of_equal same)).2 rfl))
    | _ => cases kinds
  | _ =>
    have other : second.kind ∉ [Kind.array, .set] := by
      rw [← kinds]
      simp [Value.kind]
    rw [strings_of_no_collection other, strings_of_no_collection (kinds ▸ other), wrongKind,
      wrongKind, kinds]

end PolicyBuiltins.Operand
