/-
# What the comparison tables decide

Collections are compared by a table with a row for each part of the first and a
column for each part of the second.  Where the cells test for equality, a table
succeeds exactly when both listings denote one collection: the same members, or the
same last entry for every key.
-/

import PolicyBuiltins.Value.Equality

namespace PolicyBuiltins.Value

/-! ## Tables -/

/-- Folding the rows of a table folds each of its columns. -/
theorem foldl_zipWith_columns {ρ γ α β : Type} (combine : β → α → β) (cell : ρ → γ → α)
    (rows : List ρ) (columns : List γ) (start : γ → β) :
    (rows.map fun row => columns.map (cell row)).foldl (List.zipWith combine)
        (columns.map start) =
      columns.map fun column =>
        rows.foldl (fun result row => combine result (cell row column)) (start column) := by
  induction rows generalizing start with
  | nil => rfl
  | cons row rows ih =>
    have step : List.zipWith combine (columns.map start) (columns.map (cell row)) =
        columns.map fun column => combine (start column) (cell row column) := by
      rw [List.zipWith_map, List.zipWith_self]
    rw [List.map_cons, List.foldl_cons, step, ih]
    rfl

theorem foldl_or_eq_any {ρ : Type} (test : ρ → Bool) (rows : List ρ) (start : Bool) :
    rows.foldl (fun result row => result || test row) start = (start || rows.any test) := by
  induction rows generalizing start with
  | nil => rw [List.foldl_nil, List.any_nil, Bool.or_false]
  | cons row rows ih => rw [List.foldl_cons, ih, List.any_cons, Bool.or_assoc]

/-! ## Members -/

/-- Every row and every column of a table of equalities has a success when both
listings have the same members. -/
theorem coversBoth_eq_true_iff {α : Type} [DecidableEq α] (rows columns : List α) :
    coversBoth (rows.map fun row => columns.map fun column => decide (row = column))
        columns.length = true ↔
      ∀ item, item ∈ rows ↔ item ∈ columns := by
  rw [coversBoth, ← List.map_const', foldl_zipWith_columns]
  simp only [foldl_or_eq_any, Bool.false_or, List.all_map, List.any_map, Function.id_comp,
    Bool.and_eq_true, List.all_eq_true, List.any_eq_true, Function.comp, decide_eq_true_eq]
  apply Iff.intro
  · intro ⟨in_columns, in_rows⟩ item
    apply Iff.intro
    · intro inside
      obtain ⟨column, listed, same⟩ := in_columns item inside
      rw [same]
      exact listed
    · intro inside
      obtain ⟨row, listed, same⟩ := in_rows item inside
      rw [← same]
      exact listed
  · intro same_members
    refine ⟨?_, ?_⟩
    · intro row inside
      exact ⟨row, (same_members row).1 inside, rfl⟩
    · intro column inside
      exact ⟨column, (same_members column).2 inside, rfl⟩

/-! ## Entries -/

section Entries

variable {κ β : Type} [DecidableEq κ]

/-- What the last of the entries with a key carries. -/
def lastFor (key : κ) : List (κ × β) → Option β
  | [] => none
  | entry :: entries =>
    (lastFor key entries).or (if entry.1 = key then some entry.2 else none)

theorem mem_of_lastFor_eq_some {key : κ} {carried : β} {entries : List (κ × β)}
    (last : lastFor key entries = some carried) : (key, carried) ∈ entries := by
  induction entries with
  | nil => cases last
  | cons entry entries ih =>
    rw [lastFor] at last
    rcases Option.or_eq_some_iff.1 last with later | ⟨-, here⟩
    · exact List.mem_cons_of_mem _ (ih later)
    · by_cases same : entry.1 = key
      · rw [if_pos same] at here
        rw [← same, ← Option.some.inj here]
        exact List.mem_cons_self
      · rw [if_neg same] at here
        cases here

theorem lastFor_eq_none_iff {key : κ} {entries : List (κ × β)} :
    lastFor key entries = none ↔ ∀ entry ∈ entries, entry.1 ≠ key := by
  induction entries with
  | nil => simp [lastFor]
  | cons entry entries ih =>
    rw [lastFor, Option.or_eq_none_iff, ih, List.forall_mem_cons, and_comm]
    simp

theorem exists_lastFor {entry : κ × β} {entries : List (κ × β)} (listed : entry ∈ entries) :
    ∃ carried, lastFor entry.1 entries = some carried := by
  cases last : lastFor entry.1 entries with
  | none => exact absurd rfl (lastFor_eq_none_iff.1 last entry listed)
  | some carried => exact ⟨carried, rfl⟩

/-- Going through a listing, the last entry with a key decides. -/
theorem foldl_lastFor {γ : Type} (key : κ) (outcome : β → γ) (entries : List (κ × β))
    (start : γ) :
    entries.foldl
        (fun found entry => if entry.1 = key then outcome entry.2 else found) start =
      ((lastFor key entries).map outcome).getD start := by
  induction entries generalizing start with
  | nil => rfl
  | cons entry entries ih =>
    rw [List.foldl_cons, ih, lastFor]
    cases lastFor key entries with
    | some carried => rfl
    | none => by_cases same : entry.1 = key <;> simp [same]

variable [DecidableEq β]

/-- A cell of the table of entries: absent where the keys differ, and else whether
both entries carry the same. -/
def entryCell (row column : κ × β) : Option Bool :=
  if row.1 = column.1 then some (decide (row.2 = column.2)) else none

/-- The lowest cell of a column tells whether the first listing carries for its key
what the column does. -/
theorem foldl_entryCell (rows : List (κ × β)) (column : κ × β) :
    rows.foldl (fun upper row => (entryCell row column).or upper) none =
      (lastFor column.1 rows).map fun carried => decide (carried = column.2) := by
  have step : (fun (upper : Option Bool) (row : κ × β) => (entryCell row column).or upper) =
      fun upper row => if row.1 = column.1 then some (decide (row.2 = column.2)) else upper := by
    funext upper row
    by_cases same : row.1 = column.1 <;> simp [entryCell, same]
  rw [step, foldl_lastFor column.1 (fun carried => some (decide (carried = column.2)))]
  cases lastFor column.1 rows <;> rfl

/-- The rightmost cell of a row tells whether the second listing has an entry for its
key and both listings carry the same for it. -/
theorem foldl_agreement (rows columns : List (κ × β)) (row : κ × β) :
    columns.foldl
        (fun found column =>
          if (entryCell row column).isSome then
            ((lastFor column.1 rows).map fun carried => decide (carried = column.2)) ==
              some true
          else found)
        false =
      ((lastFor row.1 columns).map
        fun carried => decide (lastFor row.1 rows = some carried)).getD false := by
  rw [← foldl_lastFor]
  apply congrArg (fun step => columns.foldl step false)
  funext found column
  by_cases same : row.1 = column.1
  · rw [if_pos same.symm, ← same, entryCell, if_pos same, Option.isSome_some, if_pos rfl]
    cases lastFor row.1 rows <;> simp
  · rw [if_neg (Ne.symm same), entryCell, if_neg same]
    rfl

/-- The table of entries succeeds when the last entries agree for every key. -/
theorem sameMapping_eq_true_iff (rows columns : List (κ × β)) :
    sameMapping (rows.map fun row => columns.map (entryCell row)) columns.length = true ↔
      ∀ key, lastFor key rows = lastFor key columns := by
  simp only [sameMapping]
  rw [← List.map_const', foldl_zipWith_columns fun upper cell : Option Bool => cell.or upper]
  simp only [foldl_entryCell, List.zip_map', List.foldl_map, foldl_agreement,
    Bool.and_eq_true, List.all_eq_true, List.forall_mem_map, Option.isSome_map]
  apply Iff.intro
  · intro ⟨keyed, agree⟩ key
    cases last : lastFor key rows with
    | none =>
      cases last' : lastFor key columns with
      | none => rfl
      | some carried =>
        have found := keyed _ (mem_of_lastFor_eq_some last')
        rw [last] at found
        cases found
    | some carried =>
      have agreed := agree _ (mem_of_lastFor_eq_some last)
      simp only [last] at agreed
      cases last' : lastFor key columns with
      | none =>
        rw [last'] at agreed
        cases agreed
      | some carried' =>
        rw [last'] at agreed
        exact of_decide_eq_true agreed
  · intro same_last
    refine ⟨?_, ?_⟩
    · intro column listed
      obtain ⟨carried, last⟩ := exists_lastFor listed
      rw [same_last, last]
      rfl
    · intro row listed
      obtain ⟨carried, last⟩ := exists_lastFor listed
      rw [← same_last, last]
      exact decide_eq_true rfl

end Entries

end PolicyBuiltins.Value
