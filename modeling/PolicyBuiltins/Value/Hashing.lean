/-
# What values feed to a hasher

A hasher is fed a kind first and then what tells values of that kind apart.  Members of
a set and entries of an object have no order, so each of them is hashed alone, by a hasher
that is the same everywhere, and only the sum of these hashes is fed.  A part that the
collection does not hold, because it is repeated or replaced, is not hashed.

A hash set compares a value only with those of the same hash.
-/

import PolicyBuiltins.Value.Equality

namespace PolicyBuiltins

/-- One thing that a hasher is fed. -/
inductive Feed where
  | kind (kind : Kind)
  | truth (truth : Bool)
  | integer (number : Int)
  | text (text : String)
  | size (size : Nat)
  | hash (hash : UInt64)
deriving DecidableEq, Repr

namespace Value

/-- The feed of parts that have no order: how many there are, and the sum of their
hashes in words. -/
def unorderedFeed (digest : List Feed → UInt64) (parts : List (List Feed)) : List Feed :=
  [.size parts.length, .hash ((parts.map digest).foldl (· + ·) 0)]

mutual

/-- What a value feeds to a hasher, where `digest` hashes the parts of collections that
have no order. -/
def feed (digest : List Feed → UInt64) : Value → List Feed
  | .null => [.kind .null]
  | .bool truth => [.kind .boolean, .truth truth]
  | .number decimal => [.kind .number, .integer decimal.digits, .integer decimal.scale]
  | .string text => [.kind .string, .text text]
  | .array items => .kind .array :: .size items.length :: (feedItems digest items).flatten
  | .object entries =>
    .kind .object ::
      unorderedFeed digest (keepFlagged (finality entries) (feedEntries digest entries))
  | .set members =>
    .kind .set :: unorderedFeed digest (keepFlagged (newness members) (feedItems digest members))

/-- The feeds of the values of a list. -/
def feedItems (digest : List Feed → UInt64) : List Value → List (List Feed)
  | [] => []
  | value :: values => value.feed digest :: feedItems digest values

/-- The feeds of entries, each key before its value. -/
def feedEntries (digest : List Feed → UInt64) : List (Value × Value) → List (List Feed)
  | [] => []
  | (key, value) :: entries =>
    (key.feed digest ++ value.feed digest) :: feedEntries digest entries

end

theorem feedItems_eq_map (digest : List Feed → UInt64) (values : List Value) :
    feedItems digest values = values.map (feed digest) := by
  induction values with
  | nil => rfl
  | cons value values ih => rw [feedItems, ih, List.map_cons]

theorem feedEntries_eq_map (digest : List Feed → UInt64) (entries : List (Value × Value)) :
    feedEntries digest entries =
      entries.map fun entry => entry.1.feed digest ++ entry.2.feed digest := by
  induction entries with
  | nil => rfl
  | cons entry entries ih => rw [feedEntries, ih, List.map_cons]

/-- For each value of a list, whether a hash set that holds those `seen` before it takes
it for new. -/
def newnessByHashAfter (hash : Value → UInt64) (seen : List Value) : List Value → List Bool
  | [] => []
  | value :: values =>
    (!seen.any fun other => hash value == hash other && value.equal other) ::
      newnessByHashAfter hash (value :: seen) values

/-- For each value of a list, whether it is new to a hash set that is filled from the
left. -/
def newnessByHash (hash : Value → UInt64) (values : List Value) : List Bool :=
  newnessByHashAfter hash [] values

end Value

end PolicyBuiltins
