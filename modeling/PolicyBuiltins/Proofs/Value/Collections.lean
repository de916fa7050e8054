/-
# Collections go by equality

Equality of values is an equivalence, and everything about sets and objects goes by it.  A set
holds one value for each class of equal ones among those it is made of, an object one entry for
each class of equal keys, and neither the order of the listing nor the form of the parts makes
a difference, at any depth.  Hashes agree with equality, so looking only at values of the same
hash finds the same repetitions.
-/

import PolicyBuiltins.Proofs.Value.Hashing

namespace PolicyBuiltins.Value

theorem equivalence_equal : Equivalence fun first second : Value => first.equal second = true where
  refl := equal_refl
  symm := fun {first second} same => equal_comm first second ▸ same
  trans := equal_trans

/-! ## Sets -/

variable {values others : List Value}

theorem map_render_eq_of_equal_items
    (same : List.Forall₂ (fun value other => value.equal other = true) values others) :
    values.map render = others.map render := by
  induction same with
  | nil => rfl
  | cons head _ ih => rw [List.map_cons, List.map_cons, ih, (equal_iff_render_eq _ _).1 head]

/-- A set may be listed in any order and in any forms of its members. -/
theorem equal_set_of_perm {arranged : List Value} (perm : values.Perm arranged)
    (same : List.Forall₂ (fun value other => value.equal other = true) arranged others) :
    equal (.set values) (.set others) = true := by
  rw [equal_set_iff_render, ← map_render_eq_of_equal_items same]
  exact fun text => (perm.map render).mem_iff

theorem length_distinct_of_equal (same : equal (.set values) (.set others) = true) :
    (distinct values).length = (distinct others).length :=
  ((enumerates_distinct values).of_equal same).length_eq (enumerates_distinct others)

theorem length_keepFlagged {α : Type} (flags : List Bool) (items : List α)
    (lengths : flags.length = items.length) :
    (keepFlagged flags items).length = flags.count true := by
  induction flags generalizing items with
  | nil => rfl
  | cons flag flags ih =>
    cases items with
    | nil => cases lengths
    | cons item items =>
      rw [List.length_cons, List.length_cons, Nat.add_right_cancel_iff] at lengths
      rw [keepFlagged_cons]
      cases flag with
      | true => rw [if_pos rfl, List.length_cons, ih items lengths, List.count_cons_self]
      | false =>
        rw [if_neg Bool.false_ne_true, ih items lengths,
          List.count_cons_of_ne Bool.false_ne_true]

theorem length_newnessAfter (seen values : List Value) :
    (newnessAfter seen values).length = values.length := by
  induction values generalizing seen with
  | nil => rfl
  | cons value values ih => rw [newnessAfter, List.length_cons, List.length_cons, ih]

/-- The size of a set is the number of values that are new when it is filled. -/
theorem count_newness (values : List Value) :
    (newness values).count true = (distinct values).length :=
  (length_keepFlagged _ _ (length_newnessAfter [] values)).symm

/-- A value is new if it equals none in front of it. -/
theorem getElem?_newnessAfter (seen front : List Value) (value : Value) (back : List Value) :
    (newnessAfter seen (front ++ value :: back))[front.length]? =
      some (!(seen.any value.equal || front.any value.equal)) := by
  induction front generalizing seen with
  | nil => rw [List.any_nil, Bool.or_false]; rfl
  | cons first front ih =>
    rw [List.cons_append, newnessAfter, List.length_cons, List.getElem?_cons_succ, ih,
      List.any_cons, List.any_cons, Bool.or_assoc, Bool.or_left_comm]

/-! ## Objects -/

variable {entries others arranged : List (Value × Value)}

theorem equal_object_of_rearranges (rearranges : Rearranges entries arranged)
    (same : List.Forall₂ EqualEntries arranged others) :
    equal (.object entries) (.object others) = true :=
  equal_trans rearranges.equal_object (equal_object_of_equalEntries same)

theorem length_lastEntries_of_equal (same : equal (.object entries) (.object others) = true) :
    (lastEntries entries).length = (lastEntries others).length := by
  rw [← List.length_map renderings, (lastEntries_renderings_perm same).length_eq,
    List.length_map]

/-- Equality of values is an equivalence, with which hashes agree.  A set is the same in
whatever order and forms its members are listed; its size is the number of classes of equal
values among them, which is how many are new to a hash set that is filled from the left.  An
object has one entry for each class of equal keys, the last one listed, and is the same in
whatever forms its entries are listed and in every order that keeps the order of entries with
equal keys. -/
theorem collections_go_by_equality (digest finish : List Feed → UInt64) :
    Equivalence (fun first second : Value => first.equal second = true) ∧
    (∀ first second : Value, first.equal second = true →
      first.feed digest = second.feed digest) ∧
    (∀ values arranged others : List Value, values.Perm arranged →
      List.Forall₂ (fun value other => value.equal other = true) arranged others →
      equal (.set values) (.set others) = true ∧
      (distinct values).length = (distinct others).length) ∧
    (∀ values : List Value, Enumerates (distinct values) values ∧
      (∀ order, Enumerates order values → order.length = (distinct values).length) ∧
      (newness values).count true = (distinct values).length ∧
      newnessByHash (fun value => finish (value.feed digest)) values = newness values) ∧
    (∀ (front : List Value) (value : Value) (back : List Value),
      (newness (front ++ value :: back))[front.length]? =
        some (!front.any value.equal)) ∧
    (∀ entries : List (Value × Value), IsLastOfEach (lastEntries entries) entries) ∧
    (∀ entries arranged others : List (Value × Value), Rearranges entries arranged →
      List.Forall₂ EqualEntries arranged others →
      equal (.object entries) (.object others) = true ∧
      (lastEntries entries).length = (lastEntries others).length) := by
  have consistent (first second : Value) (same : first.equal second = true) :
      finish (first.feed digest) = finish (second.feed digest) :=
    congrArg finish (feed_eq_of_equal same)
  refine ⟨equivalence_equal, fun first second => feed_eq_of_equal, ?_, ?_, ?_,
    isLastOfEach_lastEntries, ?_⟩
  · intro values arranged others perm same
    have equals := equal_set_of_perm perm same
    exact ⟨equals, length_distinct_of_equal equals⟩
  · intro values
    exact ⟨enumerates_distinct values,
      fun order enumerates => enumerates.length_eq (enumerates_distinct values),
      count_newness values, newnessByHashAfter_eq consistent [] values⟩
  · exact fun front value back => getElem?_newnessAfter [] front value back
  · intro entries arranged others rearranges same
    have equals := equal_object_of_rearranges rearranges same
    exact ⟨equals, length_lastEntries_of_equal equals⟩

/-- Members and entries that are sets themselves, listed in two orders, and a number written
with a fraction of zero. -/
theorem collections_go_by_equality_nested :
    let pair : Value := .set [.string "x", .string "y"]
    let pair' : Value := .set [.string "y", .string "x", .string "x"]
    let one : Value := .ofInt 1
    let one' : Value := .number (.ofParts 10 1)
    let values : List Value := [one, pair, pair', .null]
    let arranged : List Value := [pair', .null, one, pair]
    let others : List Value := [pair, .null, one', pair']
    let entries : List (Value × Value) :=
      [(.string "a", one), (.string "b", pair), (.string "a", pair)]
    let swapped : List (Value × Value) :=
      [(.string "b", pair), (.string "a", one), (.string "a", pair)]
    let renewed : List (Value × Value) :=
      [(.string "b", pair'), (.string "a", one'), (.string "a", pair')]
    values.Perm arranged ∧
    List.Forall₂ (fun value other => value.equal other = true) arranged others ∧
    Rearranges entries swapped ∧ List.Forall₂ EqualEntries swapped renewed ∧
    equal (.set values) (.set others) = true ∧ (distinct others).length = 3 ∧
    newness values = [true, true, false, true] ∧
    equal (.object entries) (.object renewed) = true ∧ (lastEntries renewed).length = 2 := by
  intro pair pair' one one' values arranged others entries swapped renewed
  have perm : ([one, pair] ++ [pair', .null]).Perm ([pair', .null] ++ [one, pair]) :=
    List.perm_append_comm
  have same : List.Forall₂ (fun value other => value.equal other = true) arranged others :=
    .cons (by decide +kernel) (.cons (by decide +kernel)
      (.cons (by decide +kernel) (.cons (by decide +kernel) .nil)))
  have keeps_order (key : Value) :
      entries.filter (fun entry => key.equal entry.1) =
        swapped.filter fun entry => key.equal entry.1 := by
    cases a_equal : key.equal (.string "a") with
    | false => simp [entries, swapped, List.filter_cons, a_equal]
    | true =>
      have b_differs : key.equal (.string "b") = false := by
        rw [eq_string_of_render_eq ((equal_iff_render_eq _ _).1 a_equal)]
        decide +kernel
      simp [entries, swapped, a_equal, b_differs]
  have rearranges : Rearranges entries swapped := ⟨.swap _ _ _, keeps_order⟩
  have same_entries : List.Forall₂ EqualEntries swapped renewed :=
    .cons ⟨by decide +kernel, by decide +kernel⟩ (.cons ⟨by decide +kernel, by decide +kernel⟩
      (.cons ⟨by decide +kernel, by decide +kernel⟩ .nil))
  obtain ⟨-, -, sets, -, -, -, objects⟩ :=
    collections_go_by_equality (fun _ => 0) fun _ => 0
  obtain ⟨equals, sizes⟩ := sets values arranged others perm same
  obtain ⟨object_equals, object_sizes⟩ := objects entries swapped renewed rearranges same_entries
  have news : newness values = [true, true, false, true] := by decide +kernel
  have size : (distinct values).length = 3 := by decide +kernel
  have object_size : (lastEntries entries).length = 2 := by decide +kernel
  exact ⟨perm, same, rearranges, same_entries, equals, sizes ▸ size, news, object_equals,
    object_sizes ▸ object_size⟩

end PolicyBuiltins.Value
