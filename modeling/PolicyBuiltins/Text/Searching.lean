/-
# Searching, splitting and replacing

All three look for the leftmost occurrence of a pattern and go on behind it, so
occurrences never overlap.  Positions count characters.

The empty pattern occurs in front of every character and at the end.  `fields`
and `replace` therefore part ways there: the fields of a text without a delimiter
are its characters, while a replacement is inserted at each of those places.
-/

namespace PolicyBuiltins.Text

/-- The parts of a text before and behind the leftmost occurrence of a pattern. -/
def cut? (pattern : List Char) : List Char → Option (List Char × List Char)
  | [] => if pattern.isEmpty then some ([], []) else none
  | c :: rest =>
    if pattern.isPrefixOf (c :: rest) then some ([], (c :: rest).drop pattern.length)
    else (cut? pattern rest).map fun (before, behind) => (c :: before, behind)

/-- The position of the leftmost occurrence of a pattern. -/
def indexOf? (pattern text : List Char) : Option Nat :=
  (cut? pattern text).map fun (before, _) => before.length

/-- Whether a pattern occurs in a text. -/
def contains (pattern text : List Char) : Bool :=
  (cut? pattern text).isSome

/-- The parts around an occurrence, with the pattern between them, are the text. -/
theorem eq_append_of_cut? {pattern text before behind : List Char}
    (found : cut? pattern text = some (before, behind)) :
    text = before ++ pattern ++ behind := by
  induction text generalizing before with
  | nil =>
    cases pattern with
    | nil => simp [cut?] at found; simp [found]
    | cons c rest => simp [cut?] at found
  | cons c rest ih =>
    unfold cut? at found
    split at found
    next occurs =>
      obtain ⟨tail, split⟩ := List.isPrefixOf_iff_prefix.1 occurs
      simp only [Option.some.injEq, Prod.mk.injEq] at found
      rw [← found.1, ← found.2, ← split]
      simp
    next =>
      simp only [Option.map_eq_some_iff, Prod.exists, Prod.mk.injEq] at found
      obtain ⟨before', behind', found', rfl, rfl⟩ := found
      rw [ih found']
      rfl

/-- What lies behind an occurrence is shorter by the length of the pattern. -/
theorem length_behind_of_cut? {pattern text before behind : List Char}
    (found : cut? pattern text = some (before, behind)) :
    behind.length + pattern.length ≤ text.length := by
  rw [eq_append_of_cut? found]
  simp only [List.length_append]
  omega

/-- A pattern is missed exactly when no end of the text begins with it. -/
theorem cut?_eq_none_iff {pattern text : List Char} :
    cut? pattern text = none ↔ ∀ rest, rest <:+ text → ¬ pattern <+: rest := by
  induction text with
  | nil =>
    cases pattern with
    | nil => simp [cut?]
    | cons c rest => simp [cut?]
  | cons c rest ih =>
    unfold cut?
    split
    next occurs =>
      have occurs := List.isPrefixOf_iff_prefix.1 occurs
      simp only [reduceCtorEq, false_iff]
      exact fun absent => absent _ (List.suffix_refl _) occurs
    next fails =>
      have fails : ¬ pattern <+: c :: rest := fun occurs =>
        fails (List.isPrefixOf_iff_prefix.2 occurs)
      rw [Option.map_eq_none_iff, ih]
      constructor
      · intro absent ending suffix
        rcases List.suffix_cons_iff.1 suffix with rfl | suffix
        · exact fails
        · exact absent _ suffix
      · intro absent ending suffix
        exact absent _ (suffix.trans (List.suffix_cons c rest))

/-- Searching finds a pattern wherever it stands in a text. -/
theorem contains_eq_true_iff {pattern text : List Char} :
    contains pattern text = true ↔ pattern <:+: text := by
  rw [contains, Option.isSome_iff_ne_none, Ne, cut?_eq_none_iff,
    List.infix_iff_prefix_suffix]
  constructor
  · intro met
    apply Classical.byContradiction
    intro missed
    exact met fun rest ends occurs => missed ⟨rest, occurs, ends⟩
  · rintro ⟨rest, occurs, ends⟩ absent
    exact absent rest ends occurs

/-- The fields between the occurrences of a delimiter that is not empty. -/
def delimitedFields (delimiter : List Char) (nonempty : delimiter ≠ [])
    (text : List Char) : List (List Char) :=
  match found : cut? delimiter text with
  | none => [text]
  | some (field, behind) =>
    have := length_behind_of_cut? found
    field :: delimitedFields delimiter nonempty behind
termination_by text.length
decreasing_by
  have := List.length_pos_iff.2 nonempty
  omega

/-- The fields of a text: between the occurrences of a delimiter, or its single
characters when the delimiter is empty. -/
def fields (delimiter text : List Char) : List (List Char) :=
  if nonempty : delimiter ≠ [] then delimitedFields delimiter nonempty text
  else text.map fun c => [c]

/-- The text with every occurrence of a pattern that is not empty replaced. -/
def replaceOccurrences (old : List Char) (nonempty : old ≠ []) (new text : List Char) :
    List Char :=
  match found : cut? old text with
  | none => text
  | some (before, behind) =>
    have := length_behind_of_cut? found
    before ++ new ++ replaceOccurrences old nonempty new behind
termination_by text.length
decreasing_by
  have := List.length_pos_iff.2 nonempty
  omega

/-- The text with every occurrence of `old` replaced by `new`; an empty `old`
occurs in front of every character and at the end. -/
def replace (old new text : List Char) : List Char :=
  if nonempty : old ≠ [] then replaceOccurrences old nonempty new text
  else new ++ text.flatMap fun c => c :: new

end PolicyBuiltins.Text
