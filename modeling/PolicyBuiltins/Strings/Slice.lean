/-
# Slices of a text

A slice is asked for by a start and a length, in characters; a negative length
reaches to the end of the text.  The end of the range is a signed 64-bit word, so it
stops at the greatest one.  A range that leaves the text is rejected, or cut down to
it, as the settings say.
-/

import PolicyBuiltins.Failure.Basic
import PolicyBuiltins.Settings
import PolicyBuiltins.Word

namespace PolicyBuiltins.Strings

/-- An integer brought between two bounds. -/
def clamp (least greatest number : Int) : Int :=
  max least (min number greatest)

/-- The end of the range from `start` of a text with `count` characters. -/
def rangeEnd (count : Nat) (start length : Int) : Int :=
  if length < 0 then count else min (start + length) greatestWord

/-- The characters of a text from one position up to another, both brought into the
text first. -/
def clampedSlice (text : List Char) (start finish : Int) : List Char :=
  let first := clamp 0 text.length start
  let last := clamp first text.length finish
  (text.drop first.toNat).take (last - first).toNat

/-- The slice of a text that a start and a length ask for. -/
def slice (rule : RangeRule) (text : List Char) (start length : Int) :
    Except Failure (List Char) :=
  let count := text.length
  let finish := rangeEnd count start length
  match rule with
  | .clamp => .ok (clampedSlice text start finish)
  | .reject =>
    if start < 0 ∨ count < start then .error { cause := .indexOutOfBounds start count }
    else if count < finish then .error { cause := .indexOutOfBounds finish count }
    else .ok (clampedSlice text start finish)

end PolicyBuiltins.Strings
