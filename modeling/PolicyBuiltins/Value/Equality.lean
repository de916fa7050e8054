/-
# Equality of values

Numbers are equal by value, arrays item by item.  Sets are equal when each member
of either has an equal one in the other.  Objects are equal when they have equal
keys and, for each key, the entries that count, which are the last ones listed,
carry equal values.

Each comparison of collections compares every part of one with every part of the
other once and decides from the table of results.  Nothing compares the parts of
one collection among themselves, so the recursion follows the first value, and the
work does not multiply with the depth of nesting.
-/

import PolicyBuiltins.Value.Basic

namespace PolicyBuiltins

/-- The entries of a list whose flags are set. -/
def keepFlagged {α : Type} (flags : List Bool) (items : List α) : List α :=
  (flags.zip items).filterMap fun (flag, item) => if flag then some item else none

namespace Value

/-- Whether tests and values correspond one to one and every test holds. -/
def allHold : List (Value → Bool) → List Value → Bool
  | [], [] => true
  | test :: tests, value :: values => test value && allHold tests values
  | _, _ => false

/-- Whether a table of results has a success in each row and in each of its
`width` columns. -/
def coversBoth (table : List (List Bool)) (width : Nat) : Bool :=
  table.all (·.any id) &&
    (table.foldl (List.zipWith (· || ·)) (List.replicate width false)).all id

/-- Whether two listings of entries denote one mapping.  A cell of the table is
absent where the keys differ, and else says whether the values are equal.  The
lowest cell of a column belongs to the entry that counts in the first listing, and
the rightmost cell of a row to the one that counts in the second. -/
def sameMapping (table : List (List (Option Bool))) (width : Nat) : Bool :=
  let lowest := table.foldl (List.zipWith fun upper cell => cell.or upper)
    (List.replicate width none)
  let agrees (row : List (Option Bool)) : Bool :=
    (row.zip lowest).foldl
      (fun found (cell, agreement) => if cell.isSome then agreement == some true else found)
      false
  lowest.all Option.isSome && table.all agrees

mutual

/-- Whether two values are equal. -/
def equal : Value → Value → Bool
  | .null, .null => true
  | .bool truth, .bool truth' => truth == truth'
  | .number decimal, .number decimal' => decimal == decimal'
  | .string text, .string text' => text == text'
  | .array items, .array items' => allHold (equalityTests items) items'
  | .object entries, .object entries' =>
    sameMapping
      ((entryTests entries).map fun (sameKey, sameValue) =>
        entries'.map fun (key, value) =>
          if sameKey key then some (sameValue value) else none)
      entries'.length
  | .set members, .set members' =>
    coversBoth ((equalityTests members).map fun test => members'.map test) members'.length
  | _, _ => false

/-- For each value of a list, the test whether another value equals it. -/
def equalityTests : List Value → List (Value → Bool)
  | [] => []
  | value :: values => value.equal :: equalityTests values

/-- For each entry of a list, the tests for an equal key and for an equal value. -/
def entryTests : List (Value × Value) → List ((Value → Bool) × (Value → Bool))
  | [] => []
  | (key, value) :: entries => (key.equal, value.equal) :: entryTests entries

end

instance : BEq Value := ⟨equal⟩

theorem equalityTests_eq_map (values : List Value) : equalityTests values = values.map equal := by
  induction values with
  | nil => rfl
  | cons value values ih => rw [equalityTests, ih, List.map_cons]

theorem entryTests_eq_map (entries : List (Value × Value)) :
    entryTests entries = entries.map fun entry => (entry.1.equal, entry.2.equal) := by
  induction entries with
  | nil => rfl
  | cons entry entries ih => rw [entryTests, ih, List.map_cons]

/-- For each value of a list, whether it equals none of those `seen` before it. -/
def newnessAfter (seen : List Value) : List Value → List Bool
  | [] => []
  | value :: values =>
    (!seen.any value.equal) :: newnessAfter (value :: seen) values

/-- For each value of a list, whether it equals none of those before it. -/
def newness (values : List Value) : List Bool :=
  newnessAfter [] values

/-- The values of a list without those that equal an earlier one. -/
def distinct (values : List Value) : List Value :=
  keepFlagged (newness values) values

/-- For each entry of a listing, whether no later one has an equal key. -/
def finality : List (Value × Value) → List Bool
  | [] => []
  | (key, _) :: later => (!later.any (key.equal ·.1)) :: finality later

/-- The entries of a listing that count. -/
def lastEntries (entries : List (Value × Value)) : List (Value × Value) :=
  keepFlagged (finality entries) entries

end Value

end PolicyBuiltins
