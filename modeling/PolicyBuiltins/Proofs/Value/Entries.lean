/-
# The entries of an object

An object has one entry for every key of its listing: the last one that has the key.  So a
listing may be rearranged as long as entries with equal keys keep their order, and keys and
values may be replaced by equal ones.
-/

import PolicyBuiltins.Proofs.Value.Enumeration

namespace PolicyBuiltins.Value

/-- The entries that count in a listing. -/
structure IsLastOfEach (kept entries : List (Value × Value)) : Prop where
  /-- There is one for each key of the listing. -/
  keys : Enumerates (kept.map Prod.fst) (entries.map Prod.fst)
  /-- Each is listed, and none behind it has its key. -/
  last : ∀ entry ∈ kept, ∃ front back, entries = front ++ entry :: back ∧
    ∀ later ∈ back, entry.1.equal later.1 = false

/-- A rearrangement in which entries with equal keys keep their order. -/
structure Rearranges (entries others : List (Value × Value)) : Prop where
  perm : entries.Perm others
  keeps_order : ∀ key : Value,
    entries.filter (fun entry => key.equal entry.1) =
      others.filter fun entry => key.equal entry.1

/-- Entries with equal keys that carry equal values. -/
def EqualEntries (entry other : Value × Value) : Prop :=
  entry.1.equal other.1 = true ∧ entry.2.equal other.2 = true

/-! ## The last entry for each key -/

theorem lastEntries_cons (entry : Value × Value) (entries : List (Value × Value)) :
    lastEntries (entry :: entries) =
      if entries.any (fun later => entry.1.equal later.1) then lastEntries entries
      else entry :: lastEntries entries := by
  rw [lastEntries, finality, keepFlagged_cons]
  cases entries.any fun later => entry.1.equal later.1 <;> rfl

/-- An entry counts when none behind it has its key. -/
theorem last_of_mem_lastEntries {entries : List (Value × Value)} {entry : Value × Value}
    (kept : entry ∈ lastEntries entries) :
    ∃ front back, entries = front ++ entry :: back ∧
      ∀ later ∈ back, entry.1.equal later.1 = false := by
  induction entries with
  | nil => cases kept
  | cons first entries ih =>
    have behind (kept : entry ∈ lastEntries entries) : ∃ front back,
        first :: entries = front ++ entry :: back ∧
          ∀ later ∈ back, entry.1.equal later.1 = false := by
      obtain ⟨front, back, rfl, final⟩ := ih kept
      exact ⟨first :: front, back, rfl, final⟩
    rw [lastEntries_cons] at kept
    split at kept
    next => exact behind kept
    next final =>
      rcases List.mem_cons.1 kept with rfl | kept
      · rw [Bool.not_eq_true, List.any_eq_false] at final
        exact ⟨[], entries, rfl, fun later inside => Bool.eq_false_iff.2 (final later inside)⟩
      · exact behind kept

theorem enumerates_keys_lastEntries (entries : List (Value × Value)) :
    Enumerates ((lastEntries entries).map Prod.fst) (entries.map Prod.fst) := by
  induction entries with
  | nil => exact ⟨List.Pairwise.nil, List.forall_mem_nil _, List.forall_mem_nil _⟩
  | cons entry entries ih =>
    obtain ⟨apart, covers, within⟩ := ih
    have within_more : ∀ other ∈ (lastEntries entries).map Prod.fst,
        ∃ key ∈ (entry :: entries).map Prod.fst, other.equal key = true := by
      intro other kept
      obtain ⟨key, inside, same⟩ := within other kept
      exact ⟨key, List.mem_cons_of_mem _ inside, same⟩
    rw [lastEntries_cons]
    split
    next replaced =>
      refine ⟨apart, List.forall_mem_cons.2 ⟨?_, covers⟩, within_more⟩
      obtain ⟨later, inside, same⟩ := List.any_eq_true.1 replaced
      obtain ⟨other, kept, same'⟩ := covers later.1 (List.mem_map_of_mem inside)
      exact ⟨other, kept, equal_trans same same'⟩
    next final =>
      refine ⟨List.pairwise_cons.2 ⟨?_, apart⟩, List.forall_mem_cons.2 ⟨?_, ?_⟩,
        List.forall_mem_cons.2 ⟨?_, within_more⟩⟩
      · intro other kept
        obtain ⟨entry', kept', rfl⟩ := List.mem_map.1 kept
        obtain ⟨front, back, rfl, -⟩ := last_of_mem_lastEntries kept'
        rw [Bool.not_eq_true, List.any_eq_false] at final
        exact Bool.eq_false_iff.2 (final entry' (List.mem_append_right _ List.mem_cons_self))
      · exact ⟨entry.1, List.mem_cons_self, equal_refl entry.1⟩
      · intro key inside
        obtain ⟨other, kept, same⟩ := covers key inside
        exact ⟨other, List.mem_cons_of_mem _ kept, same⟩
      · exact ⟨entry.1, List.mem_cons_self, equal_refl entry.1⟩

theorem isLastOfEach_lastEntries (entries : List (Value × Value)) :
    IsLastOfEach (lastEntries entries) entries :=
  ⟨enumerates_keys_lastEntries entries, fun _ => last_of_mem_lastEntries⟩

/-! ## Equal objects -/

variable {entries others arranged : List (Value × Value)}

theorem equal_object_iff_lastFor :
    equal (.object entries) (.object others) = true ↔
      ∀ key, lastFor key (entries.map renderings) = lastFor key (others.map renderings) :=
  equal_object_iff faithful_of_true (fun _ _ => ⟨trivial, trivial⟩)
    fun _ _ => ⟨trivial, trivial⟩

/-- Equal objects have the same entries that count, up to order, by their renderings. -/
theorem lastEntries_renderings_perm
    (same : equal (.object entries) (.object others) = true) :
    ((lastEntries entries).map renderings).Perm ((lastEntries others).map renderings) := by
  rw [equal_object_iff_lastFor] at same
  have keys (listing : List (Value × Value)) : ∀ entry ∈ listing, True := fun _ _ => trivial
  rw [lastEntries, lastEntries, ← keepFlagged_map, ← keepFlagged_map]
  apply (List.perm_ext_iff_of_nodup (nodup_keepFlagged_finality faithful_of_true (keys entries))
    (nodup_keepFlagged_finality faithful_of_true (keys others))).2
  rintro ⟨key, carried⟩
  rw [mem_keepFlagged_finality faithful_of_true (keys entries),
    mem_keepFlagged_finality faithful_of_true (keys others), same]

/-- Only entries with a key decide what is carried for it. -/
theorem lastFor_filter (key : Value) (entries : List (Value × Value)) :
    lastFor key.render ((entries.filter fun entry => key.equal entry.1).map renderings) =
      lastFor key.render (entries.map renderings) := by
  induction entries with
  | nil => rfl
  | cons entry entries ih =>
    rw [List.filter_cons, lastFor_map_renderings_cons, ← ih]
    cases same : key.equal entry.1 with
    | true => rfl
    | false =>
      rw [if_neg Bool.false_ne_true, if_neg ((equal_eq_false_iff _ _).1 same).symm, Option.or_none]

theorem Rearranges.equal_object (rearranges : Rearranges entries others) :
    equal (.object entries) (.object others) = true := by
  rw [equal_object_iff_lastFor]
  intro text
  by_cases listed : ∃ entry ∈ entries, entry.1.render = text
  · obtain ⟨entry, -, rfl⟩ := listed
    rw [← lastFor_filter, rearranges.keeps_order, lastFor_filter]
  · have absent {listing : List (Value × Value)} (inside : ∀ entry ∈ listing, entry ∈ entries) :
        lastFor text (listing.map renderings) = none := by
      rw [lastFor_eq_none_iff, List.forall_mem_map]
      intro entry member same
      exact listed ⟨entry, inside entry member, same⟩
    rw [absent fun entry member => member, absent fun entry => rearranges.perm.mem_iff.2]

theorem renderings_eq_of_equalEntries (same : List.Forall₂ EqualEntries entries others) :
    entries.map renderings = others.map renderings := by
  induction same with
  | nil => rfl
  | cons parts _ ih =>
    rw [List.map_cons, List.map_cons, ih, renderings, renderings,
      (equal_iff_render_eq _ _).1 parts.1, (equal_iff_render_eq _ _).1 parts.2]

theorem equal_object_of_equalEntries (same : List.Forall₂ EqualEntries entries others) :
    equal (.object entries) (.object others) = true := by
  rw [equal_object_iff_lastFor, renderings_eq_of_equalEntries same]
  exact fun _ => rfl

end PolicyBuiltins.Value
