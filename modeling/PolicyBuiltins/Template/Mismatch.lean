/-
# Mismatches

A template and its arguments can disagree in seven ways.  Each has a marker, which
stands in the output in its place, and a description, which is the text of the
failure where mismatches are rejected.
-/

import PolicyBuiltins.Template.Layout
import PolicyBuiltins.Value.Rendering

namespace PolicyBuiltins.Template

/-- A disagreement between a template and its arguments. -/
inductive Mismatch where
  /-- A verb does not accept its argument. -/
  | wrongType (verb : Char) (argument : Value)
  /-- There is no argument left for a verb. -/
  | missing (verb : Char)
  /-- Arguments are left over at the end. -/
  | extra (arguments : List Value)
  /-- A character names no verb. -/
  | badVerb (verb : Char) (argument : Value)
  /-- A width is too large. -/
  | badWidth
  /-- A precision is too large. -/
  | badPrecision
  /-- The template ends before a verb. -/
  | noVerb

namespace Mismatch

/-- An argument behind the name of its kind. -/
def typed (argument : Value) : List Char :=
  argument.kind.name.toList ++ '=' :: argument.plainText

/-- A marker with its text in parentheses. -/
def markerOf (subject content : List Char) : List Char :=
  "%!".toList ++ subject ++ '(' :: content ++ [')']

/-- What stands in the output for a mismatch. -/
def marker : Mismatch → List Char
  | wrongType verb argument => markerOf [verb] (typed argument)
  | missing verb => markerOf [verb] "MISSING".toList
  | extra arguments =>
    markerOf [] ("EXTRA ".toList ++ [',', ' '].intercalate (arguments.map typed))
  | badVerb verb argument => markerOf [verb] (typed argument)
  | badWidth => markerOf [] "BADWIDTH".toList
  | badPrecision => markerOf [] "BADPREC".toList
  | noVerb => markerOf [] "NOVERB".toList

/-- The words for a mismatch. -/
def description : Mismatch → List Char
  | wrongType verb argument =>
    '%' :: verb :: " cannot format ".toList ++ argument.kind.name.toList ++
      ' ' :: argument.plainText
  | missing verb => "missing argument for %".toList ++ [verb]
  | extra arguments =>
    Numeral.ofNat 10 arguments.length ++ " unused argument(s)".toList
  | badVerb verb _ => "unknown verb %".toList ++ [verb]
  | badWidth => "width exceeds ".toList ++ Numeral.ofNat 10 maxCount
  | badPrecision => "precision exceeds ".toList ++ Numeral.ofNat 10 maxCount
  | noVerb => "template ends in a bare %".toList

end Mismatch

end PolicyBuiltins.Template
