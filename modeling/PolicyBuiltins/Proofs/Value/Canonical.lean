/-
# The canonical rendering is faithful

Two values are equal exactly when they are rendered alike.  Equality of collections
goes by a table of the equalities of their parts, and their rendering sorts the
renderings of their parts with repetitions dropped.  Once equality and rendering agree
on the parts, both say the same about the texts of the parts, whatever the order of
the listings: which members there are, or what the last entry for each key carries.

Dropping repetitions compares the parts of one collection among themselves, and not
only with those of the other.  The induction is therefore on a bound for the sizes of
both values and not on one of them.
-/

import Mathlib.Data.List.Nodup
import PolicyBuiltins.Proofs.Value.Reading
import PolicyBuiltins.Proofs.Value.Tables

namespace PolicyBuiltins.Value

/-- Equality and the canonical rendering agree on two values. -/
def Faithful (first second : Value) : Prop :=
  first.equal second = true ↔ first.render = second.render

theorem Faithful.equal_eq {first second : Value} (faithful : Faithful first second) :
    first.equal second = decide (first.render = second.render) :=
  Bool.eq_iff_iff.2 (faithful.trans decide_eq_true_iff.symm)

/-- Sorted listings without repetition are equal when they list the same texts. -/
theorem sorted_eq_sorted_iff {texts others : List (List Char)} (nodup : texts.Nodup)
    (nodup' : others.Nodup) :
    Text.sorted texts = Text.sorted others ↔ ∀ text, text ∈ texts ↔ text ∈ others := by
  apply Iff.intro
  · intro same text
    rw [← (Text.sorted_perm texts).mem_iff, same, (Text.sorted_perm others).mem_iff]
  · intro same
    exact Text.sorted_eq_of_perm ((List.perm_ext_iff_of_nodup nodup nodup').2 same)

theorem keepFlagged_cons {α : Type} (flag : Bool) (flags : List Bool) (item : α)
    (items : List α) :
    keepFlagged (flag :: flags) (item :: items) =
      if flag then item :: keepFlagged flags items else keepFlagged flags items := by
  cases flag <;> rfl

theorem keepFlagged_map {α β : Type} (f : α → β) (flags : List Bool) (items : List α) :
    keepFlagged flags (items.map f) = (keepFlagged flags items).map f := by
  induction flags generalizing items with
  | nil => rfl
  | cons flag flags ih =>
    cases items with
    | nil => rfl
    | cons item items =>
      rw [List.map_cons, keepFlagged_cons, keepFlagged_cons, ih]
      cases flag <;> rfl

/-- An entry by the renderings of its parts. -/
def renderings (entry : Value × Value) : List Char × List Char :=
  (entry.1.render, entry.2.render)

theorem lastFor_map_renderings_cons (key : List Char) (entry : Value × Value)
    (entries : List (Value × Value)) :
    lastFor key ((entry :: entries).map renderings) =
      (lastFor key (entries.map renderings)).or
        (if entry.1.render = key then some entry.2.render else none) := rfl

theorem renderEntries_eq_map_renderings (entries : List (Value × Value)) :
    renderEntries entries =
      (entries.map renderings).map fun entry => entryText entry.1 entry.2 := by
  rw [renderEntries_eq_map, List.map_map]
  rfl

/-- The text of an entry tells its parts. -/
theorem entryText_render_inj {first second : Value} {carried carried' : List Char}
    (same : entryText first.render carried = entryText second.render carried') :
    (first.render, carried) = (second.render, carried') :=
  Prod.ext_iff.2 (entryText_inj (separable_render first second) same)

section Parts

variable {part : Value → Prop}
  (faithful : ∀ {first second : Value}, part first → part second → Faithful first second)

include faithful

/-! ## Arrays -/

theorem equal_array_iff {items others : List Value} (parts : ∀ item ∈ items, part item)
    (parts' : ∀ other ∈ others, part other) :
    equal (.array items) (.array others) = true ↔ items.map render = others.map render := by
  rw [equal]
  induction items generalizing others with
  | nil =>
    cases others with
    | nil => exact iff_of_true rfl rfl
    | cons other others => exact iff_of_false Bool.false_ne_true (List.cons_ne_nil _ _).symm
  | cons item items ih =>
    cases others with
    | nil => exact iff_of_false Bool.false_ne_true (List.cons_ne_nil _ _)
    | cons other others =>
      obtain ⟨own, parts⟩ := List.forall_mem_cons.1 parts
      obtain ⟨own', parts'⟩ := List.forall_mem_cons.1 parts'
      rw [equalityTests, allHold, Bool.and_eq_true, List.map_cons, List.map_cons,
        List.cons.injEq, ih parts parts']
      exact and_congr_left fun _ => faithful own own'

/-! ## Sets -/

theorem any_equal_eq {seen : List Value} {value : Value} (own : part value)
    (parts : ∀ other ∈ seen, part other) :
    seen.any value.equal = decide (value.render ∈ seen.map render) := by
  induction seen with
  | nil => rfl
  | cons other seen ih =>
    obtain ⟨other_part, parts⟩ := List.forall_mem_cons.1 parts
    rw [List.any_cons, ih parts, (faithful own other_part).equal_eq, List.map_cons]
    simp only [List.mem_cons, Bool.decide_or]

/-- The new members are those whose renderings are listed and not seen before. -/
theorem mem_keepFlagged_newnessAfter {seen members : List Value}
    (parts : ∀ other ∈ seen, part other) (parts' : ∀ member ∈ members, part member)
    (text : List Char) :
    text ∈ keepFlagged (newnessAfter seen members) (members.map render) ↔
      text ∈ members.map render ∧ text ∉ seen.map render := by
  induction members generalizing seen with
  | nil => simp [newnessAfter, keepFlagged]
  | cons member members ih =>
    obtain ⟨own, parts'⟩ := List.forall_mem_cons.1 parts'
    have later := ih (List.forall_mem_cons.2 ⟨own, parts⟩) parts'
    rw [newnessAfter, List.map_cons, keepFlagged_cons, any_equal_eq faithful own parts]
    by_cases old : member.render ∈ seen.map render
    · rw [decide_eq_true old, Bool.not_true, if_neg Bool.false_ne_true, later, List.map_cons]
      grind
    · rw [decide_eq_false old, Bool.not_false, if_pos rfl, List.mem_cons, later, List.map_cons]
      grind

theorem nodup_keepFlagged_newnessAfter {seen members : List Value}
    (parts : ∀ other ∈ seen, part other) (parts' : ∀ member ∈ members, part member) :
    (keepFlagged (newnessAfter seen members) (members.map render)).Nodup := by
  induction members generalizing seen with
  | nil => exact List.nodup_nil
  | cons member members ih =>
    obtain ⟨own, parts'⟩ := List.forall_mem_cons.1 parts'
    have seen_parts := List.forall_mem_cons.2 ⟨own, parts⟩
    have later := ih seen_parts parts'
    rw [newnessAfter, List.map_cons, keepFlagged_cons]
    cases seen.any member.equal with
    | true => exact later
    | false =>
      refine List.nodup_cons.2 ⟨?_, later⟩
      intro again
      exact ((mem_keepFlagged_newnessAfter faithful seen_parts parts' _).1 again).2
        List.mem_cons_self

/-- Sets are listed alike when their members are rendered alike. -/
theorem memberTexts_eq_iff {members others : List Value}
    (parts : ∀ member ∈ members, part member) (parts' : ∀ other ∈ others, part other) :
    memberTexts members = memberTexts others ↔
      ∀ text, text ∈ members.map render ↔ text ∈ others.map render := by
  have none_seen : ∀ other ∈ ([] : List Value), part other := fun _ none => nomatch none
  rw [memberTexts, memberTexts, renderItems_eq_map, renderItems_eq_map, newness, newness,
    sorted_eq_sorted_iff (nodup_keepFlagged_newnessAfter faithful none_seen parts)
      (nodup_keepFlagged_newnessAfter faithful none_seen parts')]
  apply forall_congr'
  intro text
  rw [mem_keepFlagged_newnessAfter faithful none_seen parts,
    mem_keepFlagged_newnessAfter faithful none_seen parts']
  simp

theorem equal_set_iff {members others : List Value}
    (parts : ∀ member ∈ members, part member) (parts' : ∀ other ∈ others, part other) :
    equal (.set members) (.set others) = true ↔
      ∀ text, text ∈ members.map render ↔ text ∈ others.map render := by
  have table : ((equalityTests members).map fun test => others.map test) =
      (members.map render).map fun row =>
        (others.map render).map fun column => decide (row = column) := by
    rw [equalityTests_eq_map, List.map_map, List.map_map]
    apply List.map_congr_left
    intro member inside
    show others.map member.equal =
      (others.map render).map fun column => decide (member.render = column)
    rw [List.map_map]
    apply List.map_congr_left
    intro other inside'
    exact (faithful (parts member inside) (parts' other inside')).equal_eq
  rw [equal, table, ← coversBoth_eq_true_iff, List.length_map]

/-! ## Objects -/

theorem any_equal_key_eq {later : List (Value × Value)} {key : Value} (own : part key)
    (keys : ∀ entry ∈ later, part entry.1) :
    later.any (key.equal ·.1) = (lastFor key.render (later.map renderings)).isSome := by
  induction later with
  | nil => rfl
  | cons entry later ih =>
    obtain ⟨entry_key, keys⟩ := List.forall_mem_cons.1 keys
    rw [List.any_cons, ih keys, (faithful own entry_key).equal_eq, List.map_cons, lastFor,
      Option.isSome_or, Bool.or_comm]
    by_cases same : key.render = entry.1.render <;> simp [renderings, same, eq_comm]

/-- The entries that count are the last ones for their keys. -/
theorem mem_keepFlagged_finality {entries : List (Value × Value)}
    (keys : ∀ entry ∈ entries, part entry.1) (key carried : List Char) :
    (key, carried) ∈ keepFlagged (finality entries) (entries.map renderings) ↔
      lastFor key (entries.map renderings) = some carried := by
  induction entries with
  | nil => simp [finality, keepFlagged, lastFor]
  | cons entry entries ih =>
    obtain ⟨own, keys⟩ := List.forall_mem_cons.1 keys
    rw [lastFor_map_renderings_cons, finality, List.map_cons, keepFlagged_cons,
      any_equal_key_eq faithful own keys]
    by_cases same : entry.1.render = key
    · -- The entry counts when none behind it has the key.
      rw [if_pos same, same]
      cases last : lastFor key (entries.map renderings) with
      | some other =>
        rw [Option.isSome_some, Bool.not_true, if_neg Bool.false_ne_true, ih keys, last]
        rfl
      | none =>
        rw [Option.isSome_none, Bool.not_false, if_pos rfl, List.mem_cons, ih keys, last,
          renderings, same, Prod.mk.injEq, Option.none_or, Option.some.injEq]
        simp [eq_comm]
    · -- An entry with another key changes nothing.
      rw [if_neg same, Option.or_none, ← ih keys]
      split
      · rw [List.mem_cons, renderings, Prod.mk.injEq]
        simp [Ne.symm same]
      · rfl

/-- No two of the entries that count have the same key. -/
theorem nodup_keepFlagged_finality {entries : List (Value × Value)}
    (keys : ∀ entry ∈ entries, part entry.1) :
    (keepFlagged (finality entries) (entries.map renderings)).Nodup := by
  induction entries with
  | nil => exact List.nodup_nil
  | cons entry entries ih =>
    obtain ⟨own, keys⟩ := List.forall_mem_cons.1 keys
    rw [finality, List.map_cons, keepFlagged_cons, any_equal_key_eq faithful own keys]
    cases last : lastFor entry.1.render (entries.map renderings) with
    | some carried => exact ih keys
    | none =>
      refine List.nodup_cons.2 ⟨?_, ih keys⟩
      intro again
      have found := (mem_keepFlagged_finality faithful keys _ _).1 again
      rw [last] at found
      cases found

theorem nodup_entryTexts {entries : List (Value × Value)}
    (keys : ∀ entry ∈ entries, part entry.1) :
    (keepFlagged (finality entries) (renderEntries entries)).Nodup := by
  rw [renderEntries_eq_map_renderings, keepFlagged_map]
  apply List.Nodup.map_on _ (nodup_keepFlagged_finality faithful keys)
  intro entry kept entry' kept' same
  obtain ⟨first, -, rfl⟩ := List.mem_map.1 (mem_of_mem_keepFlagged kept)
  obtain ⟨second, -, rfl⟩ := List.mem_map.1 (mem_of_mem_keepFlagged kept')
  exact entryText_render_inj same

/-- What an object lists for a key is what the last entry carries. -/
theorem entryText_mem_iff {entries : List (Value × Value)}
    (keys : ∀ entry ∈ entries, part entry.1) (key : Value) (carried : List Char) :
    entryText key.render carried ∈ keepFlagged (finality entries) (renderEntries entries) ↔
      lastFor key.render (entries.map renderings) = some carried := by
  rw [renderEntries_eq_map_renderings, keepFlagged_map,
    ← mem_keepFlagged_finality faithful keys, List.mem_map]
  apply Iff.intro
  · intro ⟨entry, kept, same⟩
    obtain ⟨other, -, rfl⟩ := List.mem_map.1 (mem_of_mem_keepFlagged kept)
    rw [← entryText_render_inj same]
    exact kept
  · intro kept
    exact ⟨_, kept, rfl⟩

/-- One object lists all that another does when it carries the same for every key of
the other. -/
theorem forall_listed_iff {entries others : List (Value × Value)}
    (keys : ∀ entry ∈ entries, part entry.1) (keys' : ∀ other ∈ others, part other.1) :
    (∀ text ∈ keepFlagged (finality entries) (renderEntries entries),
        text ∈ keepFlagged (finality others) (renderEntries others)) ↔
      ∀ key carried, lastFor key (entries.map renderings) = some carried →
        lastFor key (others.map renderings) = some carried := by
  apply Iff.intro
  · intro listed key carried last
    obtain ⟨entry, -, same⟩ := List.mem_map.1 (mem_of_lastFor_eq_some last)
    obtain ⟨rfl, rfl⟩ := Prod.ext_iff.1 same
    apply (entryText_mem_iff faithful keys' entry.1 _).1
    apply listed
    exact (entryText_mem_iff faithful keys entry.1 _).2 last
  · intro carried_alike text listed
    obtain ⟨entry, inside, rfl⟩ := exists_of_mem_renderEntries (mem_of_mem_keepFlagged listed)
    apply (entryText_mem_iff faithful keys' entry.1 _).2
    apply carried_alike
    exact (entryText_mem_iff faithful keys entry.1 _).1 listed

/-- Objects are listed alike when the last entries for every key are rendered alike. -/
theorem entryTexts_eq_iff {entries others : List (Value × Value)}
    (keys : ∀ entry ∈ entries, part entry.1) (keys' : ∀ other ∈ others, part other.1) :
    entryTexts entries = entryTexts others ↔
      ∀ key, lastFor key (entries.map renderings) = lastFor key (others.map renderings) := by
  rw [entryTexts, entryTexts, sorted_eq_sorted_iff (nodup_entryTexts faithful keys)
    (nodup_entryTexts faithful keys')]
  apply Iff.intro
  · intro same key
    apply Option.ext
    intro carried
    apply Iff.intro
    · exact (forall_listed_iff faithful keys keys').1 (fun text => (same text).1) key carried
    · exact (forall_listed_iff faithful keys' keys).1 (fun text => (same text).2) key carried
  · intro same text
    apply Iff.intro
    · exact (forall_listed_iff faithful keys keys').2
        (fun key carried last => (same key).symm.trans last) text
    · exact (forall_listed_iff faithful keys' keys).2
        (fun key carried last => (same key).trans last) text

theorem equal_object_iff {entries others : List (Value × Value)}
    (parts : ∀ entry ∈ entries, part entry.1 ∧ part entry.2)
    (parts' : ∀ other ∈ others, part other.1 ∧ part other.2) :
    equal (.object entries) (.object others) = true ↔
      ∀ key, lastFor key (entries.map renderings) = lastFor key (others.map renderings) := by
  have table : ((entryTests entries).map fun tests =>
      others.map fun other => if tests.1 other.1 then some (tests.2 other.2) else none) =
      (entries.map renderings).map fun row => (others.map renderings).map (entryCell row) := by
    rw [entryTests_eq_map, List.map_map, List.map_map]
    apply List.map_congr_left
    intro entry inside
    show (others.map fun other =>
        if entry.1.equal other.1 then some (entry.2.equal other.2) else none) =
      (others.map renderings).map (entryCell (renderings entry))
    rw [List.map_map]
    apply List.map_congr_left
    intro other inside'
    obtain ⟨key_part, value_part⟩ := parts entry inside
    obtain ⟨key_part', value_part'⟩ := parts' other inside'
    rw [(faithful key_part key_part').equal_eq, (faithful value_part value_part').equal_eq,
      Function.comp, entryCell]
    by_cases same : entry.1.render = other.1.render <;> simp [renderings, same]
  rw [equal]
  show sameMapping ((entryTests entries).map fun tests =>
      others.map fun other => if tests.1 other.1 then some (tests.2 other.2) else none)
    others.length = true ↔ _
  rw [table, ← sameMapping_eq_true_iff, List.length_map]

end Parts

end PolicyBuiltins.Value
