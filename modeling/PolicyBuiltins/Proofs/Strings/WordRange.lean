/-
# Ranges in words

A range can be worked out in signed 64-bit words alone.  A count of characters and a sum stop
at the ends of the words, and a word is brought between two others.  Bringing it between
bounds that cross has no result, and neither has a step back from a smaller index to a greater
one.  `sliceInWords` works out a slice this way, with every such step checked.

No step is without its result, and the slice is the one that the integers give.
-/

import PolicyBuiltins.Strings.Slice
import PolicyBuiltins.Word

namespace PolicyBuiltins.Strings

/-- The word nearest to an integer. -/
def nearestWord (number : Int) : Int64 :=
  Int64.ofInt (clamp leastWord greatestWord number)

/-- A word brought between two bounds, which must not cross. -/
def clampWord? (least greatest word : Int64) : Option Int64 :=
  if least ≤ greatest then
    some (if word < least then least else if greatest < word then greatest else word)
  else none

/-- The index that a word is; a negative word stands for the end of the text. -/
def indexOfWord (count : Nat) (word : Int64) : Nat :=
  if word < 0 then count else word.toInt.toNat

/-- The characters from one index up to another, which must not lie in front of it. -/
def charactersFrom? (text : List Char) (first last : Nat) : Option (List Char) :=
  if first ≤ last then some ((text.drop first).take (last - first)) else none

/-- The characters from one word up to another, both brought into the text first. -/
def clampedSliceInWords? (text : List Char) (count start finish : Int64) :
    Option (List Char) := do
  let first ← clampWord? 0 count start
  let last ← clampWord? first count finish
  charactersFrom? text (indexOfWord text.length first) (indexOfWord text.length last)

/-- The slice of a text that a start and a length ask for, worked out in words.  There is
none if a step has no result. -/
def sliceInWords? (rule : RangeRule) (text : List Char) (start length : Int64) :
    Option (Except Failure (List Char)) :=
  let count := nearestWord text.length
  let finish := if length < 0 then count else nearestWord (start.toInt + length.toInt)
  if rule = .reject ∧ (start < 0 ∨ count < start) then
    some (.error { cause := .indexOutOfBounds start.toInt text.length })
  else if rule = .reject ∧ count < finish then
    some (.error { cause := .indexOutOfBounds finish.toInt text.length })
  else (clampedSliceInWords? text count start finish).map .ok

/-! ## Steps -/

theorem toInt_nearestWord (number : Int) :
    (nearestWord number).toInt = clamp leastWord greatestWord number := by
  apply toInt_ofInt_of_isWord
  simp only [IsWord, clamp, leastWord, greatestWord]
  omega

theorem toInt_nearestWord_length {text : List Char} (held : (text.length : Int) ≤ greatestWord) :
    (nearestWord text.length).toInt = text.length := by
  rw [toInt_nearestWord]
  simp only [clamp, leastWord, greatestWord] at held ⊢
  omega

theorem clampWord?_eq_some {least greatest : Int64} (straight : least ≤ greatest)
    (word : Int64) :
    ∃ clamped, clampWord? least greatest word = some clamped ∧
      clamped.toInt = clamp least.toInt greatest.toInt word.toInt := by
  refine ⟨_, if_pos straight, ?_⟩
  rw [Int64.le_iff_toInt_le] at straight
  simp only [Int64.lt_iff_toInt_lt, clamp]
  split
  · omega
  · split <;> omega

theorem indexOfWord_of_nonneg {word : Int64} (nonneg : 0 ≤ word.toInt) (count : Nat) :
    indexOfWord count word = word.toInt.toNat := by
  rw [indexOfWord, if_neg]
  rw [Int64.lt_iff_toInt_lt]
  exact Int.not_lt.2 nonneg

/-- The end of a range is the same in words. -/
theorem toInt_finish {count : Int64} {characters : Nat} (counted : count.toInt = characters)
    (start length : Int64) :
    (if length < 0 then count else nearestWord (start.toInt + length.toInt)).toInt =
      rangeEnd characters start.toInt length.toInt := by
  have start_word := isWord_toInt start
  simp only [rangeEnd, Int64.lt_iff_toInt_lt, Int64.toInt_zero]
  split
  · exact counted
  · rw [toInt_nearestWord]
    simp only [clamp, IsWord, leastWord, greatestWord] at start_word ⊢
    omega

/-! ## Slices -/

/-- Both bounds of a slice are brought between bounds in order, and are in order then. -/
theorem clampedSliceInWords?_eq {text : List Char} {count : Int64}
    (counted : count.toInt = text.length) (start finish : Int64) :
    clampedSliceInWords? text count start finish =
      some (clampedSlice text start.toInt finish.toInt) := by
  obtain ⟨first, first_eq, first_int⟩ := @clampWord?_eq_some 0 count
    (by rw [Int64.le_iff_toInt_le, counted]; exact Int.natCast_nonneg _) start
  rw [counted, Int64.toInt_zero] at first_int
  have first_bounds : 0 ≤ first.toInt ∧ first.toInt ≤ text.length := by
    rw [first_int, clamp]
    omega
  obtain ⟨last, last_eq, last_int⟩ := @clampWord?_eq_some first count
    (by rw [Int64.le_iff_toInt_le, counted]; exact first_bounds.2) finish
  rw [counted] at last_int
  have last_ge : first.toInt ≤ last.toInt := by
    rw [last_int, clamp]
    omega
  simp only [clampedSliceInWords?, first_eq, last_eq, Option.bind_eq_bind, Option.bind_some]
  rw [indexOfWord_of_nonneg first_bounds.1, indexOfWord_of_nonneg (by omega), charactersFrom?,
    if_pos (by omega)]
  simp only [clampedSlice, ← first_int, ← last_int]
  rw [show last.toInt.toNat - first.toInt.toNat = (last.toInt - first.toInt).toNat by omega]

/-- Working a slice out in words gives a result, and it is the slice. -/
theorem sliceInWords?_eq (rule : RangeRule) {text : List Char}
    (held : (text.length : Int) ≤ greatestWord) (start length : Int64) :
    sliceInWords? rule text start length =
      some (slice rule text start.toInt length.toInt) := by
  have counted := toInt_nearestWord_length held
  have finish_int := toInt_finish counted start length
  simp only [sliceInWords?]
  generalize nearestWord text.length = count at counted finish_int ⊢
  generalize (if length < 0 then count else nearestWord (start.toInt + length.toInt)) = finish
    at finish_int ⊢
  rw [clampedSliceInWords?_eq counted]
  simp only [Int64.lt_iff_toInt_lt, Int64.toInt_zero, counted, finish_int, slice]
  cases rule with
  | clamp => simp
  | reject =>
    simp only [true_and]
    split
    next => rfl
    next =>
      split
      next => rfl
      next => rfl

end PolicyBuiltins.Strings
