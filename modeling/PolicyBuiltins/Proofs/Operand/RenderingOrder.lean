/-
# Two orders of a set of strings

The strings of a set are handed over in the order of their bytes.  The canonical rendering
writes the same strings in the order of their quoted forms.  These orders are one exactly if
quoting keeps the order of every two members.
-/

import PolicyBuiltins.Proofs.Operand.Enumeration
import PolicyBuiltins.Proofs.Text.QuotedOrder

namespace PolicyBuiltins.Value

/-- The canonical rendering of a set writes these strings, in this order. -/
inductive WritesInOrder (members : List Value) : List String → Prop where
  | none (rendered : render (.set members) = "set()".toList) : WritesInOrder members []
  | listed {first : String} {others : List String}
      (rendered : render (.set members) = enclosed '\x7b' '\x7d'
        ((first :: others).map fun text => Text.quoted text.toList)) :
      WritesInOrder members (first :: others)

variable {members : List Value} {texts : List String}

/-- What a set lists can be told from quoted texts. -/
theorem separableListings_quoted (members : List Value) (texts : List String) :
    SeparableListings (memberTexts members)
      (texts.map fun text => Text.quoted text.toList) where
  opens _ := opensInside_of_mem_memberTexts
  opens' := List.forall_mem_map.2 fun text _ => opensInside_render (.string text)
  separable := by
    intro text listed other listed'
    obtain ⟨member, -, rfl⟩ := exists_of_mem_memberTexts listed
    obtain ⟨string, -, rfl⟩ := List.mem_map.1 listed'
    exact separable_render member (.string string)

/-- The strings that a rendering writes are read off the texts that are listed for the
members. -/
theorem writesInOrder_iff :
    WritesInOrder members texts ↔
      memberTexts members = texts.map fun text => Text.quoted text.toList := by
  have no_word (listing : List (List Char)) :
      enclosed '\x7b' '\x7d' listing ≠ "set()".toList := by
    intro same
    exact absurd (List.cons.inj same).1 (by decide)
  by_cases nonempty : members = []
  · subst nonempty
    have nothing : memberTexts [] = [] := List.mergeSort_nil
    rw [nothing, eq_comm, List.map_eq_nil_iff]
    apply Iff.intro
    · intro writes
      cases writes with
      | none => rfl
      | listed rendered => exact absurd rendered.symm (no_word _)
    · rintro rfl
      exact .none render_empty_set
  · obtain ⟨member, -, behind, listed⟩ := exists_memberTexts_eq_cons nonempty
    apply Iff.intro
    · intro writes
      cases writes with
      | none rendered =>
        rw [render_set nonempty] at rendered
        exact absurd rendered (no_word _)
      | listed rendered =>
        rw [render_set nonempty] at rendered
        exact (enclosed_inj rfl (by decide) (separableListings_quoted members _)).1 rendered
    · intro same
      cases texts with
      | nil => rw [listed] at same; cases same
      | cons first others => exact .listed (by rw [render_set nonempty, same])

theorem memberTexts_of_perm (rearranged : (texts.map Value.string).Perm (distinct members)) :
    memberTexts members = Text.sorted (texts.map fun text => Text.quoted text.toList) := by
  have renderings := rearranged.map render
  rw [List.map_map] at renderings
  rw [memberTexts, renderItems_eq_map, keepFlagged_map]
  exact Text.sorted_eq_of_perm renderings.symm

/-- The strings of a set are written in an order in which their quoted forms ascend. -/
theorem writesInOrder_iff_pairwise
    (rearranged : (texts.map Value.string).Perm (distinct members)) :
    WritesInOrder members texts ↔
      texts.Pairwise fun first second =>
        Text.precedes (Text.quoted first.toList) (Text.quoted second.toList) = true := by
  have quoted_pairwise_iff : (texts.map fun text => Text.quoted text.toList).Pairwise
      (fun first second => Text.precedes first second = true) ↔
      texts.Pairwise fun first second =>
        Text.precedes (Text.quoted first.toList) (Text.quoted second.toList) = true :=
    List.pairwise_map
  rw [writesInOrder_iff, memberTexts_of_perm rearranged, ← quoted_pairwise_iff]
  apply Iff.intro
  · intro unchanged
    have ascending := Text.sorted_pairwise (texts.map fun text => Text.quoted text.toList)
    rwa [unchanged] at ascending
  · intro ascending
    exact (Text.sorted_perm _).eq_of_pairwise (fun _ _ _ _ => Text.precedes_antisymm)
      (Text.sorted_pairwise _) ascending

/-- The strings of a set are written in some order. -/
theorem exists_writesInOrder (rearranged : (texts.map Value.string).Perm (distinct members)) :
    ∃ written : List String, WritesInOrder members written ∧ written.Perm texts ∧
      written.Pairwise fun first second =>
        Text.precedes (Text.quoted first.toList) (Text.quoted second.toList) = true := by
  let before (first second : String) : Bool :=
    Text.precedes (Text.quoted first.toList) (Text.quoted second.toList)
  have perm : (texts.mergeSort before).Perm texts := List.mergeSort_perm texts before
  have ascending : (texts.mergeSort before).Pairwise fun first second => before first second :=
    @List.pairwise_mergeSort _ before (fun _ _ _ => Text.precedes_trans)
      (fun first second => Text.precedes_total _ _) texts
  have writes := (writesInOrder_iff_pairwise ((perm.map Value.string).trans rearranged)).2 ascending
  exact ⟨texts.mergeSort before, writes, perm, ascending⟩

end PolicyBuiltins.Value

namespace PolicyBuiltins.Operand

/-- Different strings whose quoted forms are in order have quoted forms with ascending bytes. -/
theorem pairwise_bytes_quotedString {texts : List String} (nodup : texts.Nodup)
    (ascending : texts.Pairwise fun first second =>
      Text.precedes (Text.quoted first.toList) (Text.quoted second.toList) = true) :
    texts.Pairwise fun first second =>
      Text.bytes (Text.quotedString first) < Text.bytes (Text.quotedString second) := by
  refine (ascending.and nodup).imp fun {first second} ⟨ordered, differ⟩ => ?_
  apply Text.bytes_lt_of_precedes
  · rw [Text.quotedString, Text.quotedString, String.toList_ofList, String.toList_ofList]
    exact ordered
  · intro same
    have quoted_same := congrArg (· ++ []) (String.ofList_injective same)
    exact differ (String.toList_inj.1 (Text.quoted_append_inj quoted_same))

/-- Strings that ascend by their bytes ascend when quoted exactly if quoting keeps every two
of them in order. -/
theorem pairwise_quoted_iff {texts : List String}
    (ascending : texts.Pairwise fun first second => Text.bytes first < Text.bytes second) :
    (texts.Pairwise fun first second =>
      Text.precedes (Text.quoted first.toList) (Text.quoted second.toList) = true) ↔
      ∀ first ∈ texts, ∀ second ∈ texts, Text.bytes first < Text.bytes second →
        Text.QuotesInOrder first.toList second.toList := by
  have quoted_iff {first second : String} (below : Text.bytes first < Text.bytes second) :
      Text.precedes (Text.quoted first.toList) (Text.quoted second.toList) = true ↔
        Text.QuotesInOrder first.toList second.toList := by
    apply Text.precedes_quoted_iff (Text.precedes_iff_not_bytes_lt.2 (List.lt_asymm below))
    intro same
    rw [String.toList_inj.1 same] at below
    exact List.lt_irrefl _ below
  apply Iff.intro
  · intro quoted
    apply List.Pairwise.forall_of_forall_of_flip
    · intro text _ below
      exact absurd below (List.lt_irrefl _)
    · refine (ascending.and quoted).imp fun {first second} ⟨_, quoted_before⟩ below => ?_
      exact (quoted_iff below).1 quoted_before
    · refine ascending.imp fun {first second} below below' => ?_
      exact absurd below' (List.lt_asymm below)
  · intro in_order
    refine ascending.imp_of_mem fun {first second} inside inside' below => ?_
    exact (quoted_iff below).2 (in_order first inside second inside' below)

end PolicyBuiltins.Operand
