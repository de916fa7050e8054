/-
# Enumerations of a set

Nothing fixes the order in which the members of a set are met, or which of several equal
values stands for a member.  An enumeration of a listing meets every member once, in any
order and in any of its forms.  Two enumerations differ in nothing but this: their
renderings are the same up to order, and so is whatever equal values agree on.
-/

import PolicyBuiltins.Proofs.Value.Faithful

namespace PolicyBuiltins.Value

/-! ## Images -/

/-- Items with the same keys up to order have the same images up to order, as far as items
with one key have one image. -/
theorem map_perm_of_key_perm {α β γ : Type} {key : α → γ} {image : α → β} {items others : List α}
    (keys : (items.map key).Perm (others.map key))
    (alike : ∀ item ∈ items, ∀ other ∈ others, key item = key other →
      image item = image other) :
    (items.map image).Perm (others.map image) := by
  induction items generalizing others with
  | nil =>
    rw [List.map_nil, List.nil_perm, List.map_eq_nil_iff] at keys
    rw [keys]
  | cons item items ih =>
    -- The key of the first item is found somewhere in the second list.
    have listed : key item ∈ others.map key := keys.mem_iff.1 List.mem_cons_self
    obtain ⟨other, inside, same⟩ := List.mem_map.1 listed
    obtain ⟨front, back, rfl⟩ := List.append_of_mem inside
    have rest : (items.map key).Perm ((front ++ back).map key) := by
      have moved := keys.trans (List.perm_middle.map key)
      rw [List.map_cons, List.map_cons, same] at moved
      exact moved.cons_inv
    have later := ih rest fun first first_inside second second_inside =>
      alike first (List.mem_cons_of_mem _ first_inside) second
        (List.perm_middle.mem_iff.2 (List.mem_cons_of_mem _ second_inside))
    rw [List.map_cons, alike item List.mem_cons_self other inside same.symm]
    exact (later.cons (image other)).trans (List.perm_middle.map image).symm

/-! ## Equality -/

theorem equal_refl (value : Value) : value.equal value = true :=
  (equal_iff_render_eq value value).2 rfl

theorem equal_comm (first second : Value) : first.equal second = second.equal first := by
  rw [Bool.eq_iff_iff, equal_iff_render_eq, equal_iff_render_eq, eq_comm]

theorem equal_trans {first second third : Value} (early : first.equal second = true)
    (late : second.equal third = true) : first.equal third = true := by
  rw [equal_iff_render_eq] at early late ⊢
  exact early.trans late

theorem equal_eq_false_iff (first second : Value) :
    first.equal second = false ↔ first.render ≠ second.render := by
  rw [← Bool.not_eq_true, equal_iff_render_eq]

/-- Whatever equal values have in common with renderings may be taken for granted. -/
theorem faithful_of_true {first second : Value} (_ : True) (_ : True) :
    Faithful first second :=
  equal_iff_render_eq first second

theorem equal_set_iff_render (members others : List Value) :
    equal (.set members) (.set others) = true ↔
      ∀ text, text ∈ members.map render ↔ text ∈ others.map render :=
  equal_set_iff faithful_of_true (fun _ _ => trivial) fun _ _ => trivial

/-- What is equal to a string is that string. -/
theorem eq_string_of_render_eq {text : String} {value : Value}
    (same : value.render = render (.string text)) : value = .string text := by
  cases value with
  | string other =>
    rw [render_string, render_string] at same
    rw [String.toList_inj.1 (Text.quoted_append_inj (congrArg (· ++ []) same))]
  | _ => cases kind_eq_of_render_eq same

/-! ## Enumerations -/

/-- Values that are met when each member of a listing is met once. -/
structure Enumerates (order members : List Value) : Prop where
  /-- No member is met twice. -/
  apart : order.Pairwise fun first second => first.equal second = false
  /-- Every member is met. -/
  covers : ∀ member ∈ members, ∃ other ∈ order, member.equal other = true
  /-- Nothing else is met. -/
  within : ∀ other ∈ order, ∃ member ∈ members, other.equal member = true

/-- Equality of members is equality of renderings, so an enumeration has the renderings of
the members without repetition. -/
theorem enumerates_iff {order members : List Value} :
    Enumerates order members ↔
      (order.map render).Nodup ∧ ∀ text, text ∈ order.map render ↔ text ∈ members.map render := by
  have nodup_iff : (order.map render).Nodup ↔
      order.Pairwise fun first second => first.equal second = false := by
    rw [List.Nodup, List.pairwise_map]
    simp only [equal_eq_false_iff]
  rw [nodup_iff]
  apply Iff.intro
  · rintro ⟨apart, covers, within⟩
    refine ⟨apart, fun text => ⟨?_, ?_⟩⟩
    · intro listed
      obtain ⟨other, inside, rfl⟩ := List.mem_map.1 listed
      obtain ⟨member, member_inside, same⟩ := within other inside
      rw [(equal_iff_render_eq other member).1 same]
      exact List.mem_map_of_mem member_inside
    · intro listed
      obtain ⟨member, inside, rfl⟩ := List.mem_map.1 listed
      obtain ⟨other, other_inside, same⟩ := covers member inside
      rw [(equal_iff_render_eq member other).1 same]
      exact List.mem_map_of_mem other_inside
  · rintro ⟨apart, same_texts⟩
    refine ⟨apart, ?_, ?_⟩
    · intro member inside
      obtain ⟨other, other_inside, same⟩ :=
        List.mem_map.1 ((same_texts member.render).2 (List.mem_map_of_mem inside))
      exact ⟨other, other_inside, (equal_iff_render_eq member other).2 same.symm⟩
    · intro other inside
      obtain ⟨member, member_inside, same⟩ :=
        List.mem_map.1 ((same_texts other.render).1 (List.mem_map_of_mem inside))
      exact ⟨member, member_inside, (equal_iff_render_eq other member).2 same.symm⟩

/-- Leaving out the members that equal an earlier one enumerates a listing. -/
theorem enumerates_distinct (members : List Value) : Enumerates (distinct members) members := by
  have none_seen : ∀ other ∈ ([] : List Value), True := fun _ _ => trivial
  have every : ∀ member ∈ members, True := fun _ _ => trivial
  rw [enumerates_iff, distinct, newness, ← keepFlagged_map]
  refine ⟨nodup_keepFlagged_newnessAfter faithful_of_true none_seen every, fun text => ?_⟩
  rw [mem_keepFlagged_newnessAfter faithful_of_true none_seen every]
  exact and_iff_left List.not_mem_nil

variable {order order' members others : List Value}

/-- What enumerates a set enumerates every set that is equal to it. -/
theorem Enumerates.of_equal (enumerates : Enumerates order members)
    (same : equal (.set members) (.set others) = true) : Enumerates order others := by
  rw [enumerates_iff] at enumerates ⊢
  obtain ⟨nodup, same_texts⟩ := enumerates
  exact ⟨nodup, fun text => (same_texts text).trans ((equal_set_iff_render _ _).1 same text)⟩

/-- Enumerations have the same renderings up to order. -/
theorem Enumerates.render_perm (enumerates : Enumerates order members)
    (enumerates' : Enumerates order' members) :
    (order.map render).Perm (order'.map render) := by
  rw [enumerates_iff] at enumerates enumerates'
  apply (List.perm_ext_iff_of_nodup enumerates.1 enumerates'.1).2
  intro text
  rw [enumerates.2, enumerates'.2]

/-- All enumerations of a listing are of one length. -/
theorem Enumerates.length_eq (enumerates : Enumerates order members)
    (enumerates' : Enumerates order' members) : order.length = order'.length := by
  rw [← List.length_map render, (enumerates.render_perm enumerates').length_eq,
    List.length_map]

end PolicyBuiltins.Value
