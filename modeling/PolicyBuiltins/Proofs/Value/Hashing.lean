/-
# Equal values feed a hasher alike

Values that are equal feed the same to a hasher, in whatever order their sets and objects are
listed and whatever is listed there twice: the parts that a collection holds are the same up
to order, and a sum of words does not depend on order.  So a hash set, which compares a value
only with those of the same hash, misses no equal one.
-/

import Mathlib.Data.List.Perm.Basic
import PolicyBuiltins.Proofs.Value.Entries
import PolicyBuiltins.Value.Hashing

namespace PolicyBuiltins.Value

variable {digest : List Feed → UInt64}

theorem unorderedFeed_eq_of_perm {parts others : List (List Feed)} (perm : parts.Perm others) :
    unorderedFeed digest parts = unorderedFeed digest others := by
  have rearranged : RightCommutative fun total hash : UInt64 => total + hash :=
    ⟨fun total hash hash' => by ac_rfl⟩
  rw [unorderedFeed, unorderedFeed, perm.length_eq, (perm.map digest).foldl_eq]

theorem feed_array (items : List Value) :
    feed digest (.array items) =
      .kind .array :: .size items.length :: (items.map (feed digest)).flatten := by
  rw [feed, feedItems_eq_map]

theorem feed_set (members : List Value) :
    feed digest (.set members) =
      .kind .set :: unorderedFeed digest ((distinct members).map (feed digest)) := by
  rw [feed, feedItems_eq_map, keepFlagged_map, distinct]

/-- What an entry feeds: its key, and behind it its value. -/
def entryFeed (digest : List Feed → UInt64) (entry : Value × Value) : List Feed :=
  entry.1.feed digest ++ entry.2.feed digest

theorem feed_object (entries : List (Value × Value)) :
    feed digest (.object entries) =
      .kind .object :: unorderedFeed digest ((lastEntries entries).map (entryFeed digest)) := by
  rw [feed, feedEntries_eq_map, keepFlagged_map]
  rfl

theorem map_eq_of_map_render_eq {β : Type} {image : Value → β} {items others : List Value}
    (alike : ∀ item ∈ items, ∀ other : Value, item.render = other.render →
      image item = image other)
    (same : items.map render = others.map render) : items.map image = others.map image := by
  induction items generalizing others with
  | nil => rw [List.map_eq_nil_iff.1 same.symm]
  | cons item items ih =>
    obtain ⟨own, alike⟩ := List.forall_mem_cons.1 alike
    cases others with
    | nil => cases same
    | cons other others =>
      obtain ⟨head, tail⟩ := List.cons.inj same
      rw [List.map_cons, List.map_cons, own other head, ih alike tail]

/-- Values that are rendered alike feed alike. -/
theorem feed_eq_of_render_eq {first second : Value} (same : first.render = second.render) :
    first.feed digest = second.feed digest := by
  induction first using induction_on_parts generalizing second with
  | null =>
    cases second with
    | null => rfl
    | _ => cases kind_eq_of_render_eq same
  | bool truth =>
    cases second with
    | bool truth' =>
      have equals := (equal_iff_render_eq _ _).2 same
      rw [equal, beq_iff_eq] at equals
      rw [equals]
    | _ => cases kind_eq_of_render_eq same
  | number decimal =>
    cases second with
    | number decimal' => rw [Decimal.text_injective same]
    | _ => cases kind_eq_of_render_eq same
  | string text => rw [eq_string_of_render_eq same.symm]
  | array items ih =>
    cases second with
    | array others =>
      have renderings := (equal_array_iff faithful_of_true (fun _ _ => trivial)
        fun _ _ => trivial).1 ((equal_iff_render_eq _ _).2 same)
      have feeds := map_eq_of_map_render_eq (fun item inside other => ih item inside) renderings
      have sizes := congrArg List.length feeds
      rw [List.length_map, List.length_map] at sizes
      rw [feed_array, feed_array, feeds, sizes]
    | _ => cases kind_eq_of_render_eq same
  | object entries ih =>
    cases second with
    | object others =>
      have equals := (equal_iff_render_eq _ _).2 same
      rw [feed_object, feed_object]
      congr 1
      apply unorderedFeed_eq_of_perm
      apply map_perm_of_key_perm (lastEntries_renderings_perm equals)
      intro entry kept other _ alike
      obtain ⟨key_alike, value_alike⟩ := Prod.ext_iff.1 alike
      obtain ⟨key_ih, value_ih⟩ := ih entry (mem_of_mem_keepFlagged kept)
      rw [entryFeed, entryFeed, key_ih key_alike, value_ih value_alike]
    | _ => cases kind_eq_of_render_eq same
  | set members ih =>
    cases second with
    | set others =>
      have equals := (equal_iff_render_eq _ _).2 same
      rw [feed_set, feed_set]
      congr 1
      apply unorderedFeed_eq_of_perm
      apply map_perm_of_key_perm
        (((enumerates_distinct members).of_equal equals).render_perm (enumerates_distinct others))
      intro member kept other _ alike
      exact ih member (mem_of_mem_keepFlagged kept) alike
    | _ => cases kind_eq_of_render_eq same

/-- Equal values feed alike. -/
theorem feed_eq_of_equal {first second : Value} (same : first.equal second = true) :
    first.feed digest = second.feed digest :=
  feed_eq_of_render_eq ((equal_iff_render_eq first second).1 same)

/-- A hash set takes for new what equals nothing before it, if equal values have the same
hash. -/
theorem newnessByHashAfter_eq {hash : Value → UInt64}
    (consistent : ∀ first second : Value, first.equal second = true → hash first = hash second)
    (seen values : List Value) :
    newnessByHashAfter hash seen values = newnessAfter seen values := by
  induction values generalizing seen with
  | nil => rfl
  | cons value values ih =>
    have probe : (fun other => hash value == hash other && value.equal other) =
        value.equal := by
      funext other
      cases same : value.equal other with
      | false => exact Bool.and_false _
      | true => rw [consistent value other same, beq_self_eq_true, Bool.and_true]
    rw [newnessByHashAfter, newnessAfter, probe, ih]

end PolicyBuiltins.Value
