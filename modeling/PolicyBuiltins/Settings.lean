/-
# Settings of built-ins

Two built-ins can be told how to treat input that does not fit: `substring` a
range outside the text, and `sprintf` arguments that disagree with the template.
-/

namespace PolicyBuiltins

/-- What happens to a range that leaves the text. -/
inductive RangeRule where
  /-- The call fails. -/
  | reject
  /-- The range is cut down to the text. -/
  | clamp
deriving DecidableEq, Repr

/-- What happens where a template and its arguments disagree. -/
inductive MismatchRule where
  /-- A marker in the output shows the disagreement. -/
  | mark
  /-- The call fails. -/
  | reject
deriving DecidableEq, Repr

/-- The settings that every call of a catalogue sees. -/
structure Settings where
  ranges : RangeRule := .reject
  mismatches : MismatchRule := .mark
deriving DecidableEq, Repr

namespace Settings

/-- Every doubtful input is a failure. -/
def strict : Settings where
  ranges := .reject
  mismatches := .reject

/-- Neither ranges nor mismatches fail. -/
def lenient : Settings where
  ranges := .clamp
  mismatches := .mark

end Settings

end PolicyBuiltins
