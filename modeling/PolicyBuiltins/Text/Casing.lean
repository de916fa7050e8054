/-
# Upper and lower case of a text

Casing replaces each character by its full mapping.  Only the capital sigma looks
around: its lower case is the final form `ς` at the end of a word, that is, when
a cased letter stands before it and none after it, characters that casing looks
through left aside.  The context is that of the text as given, before any
mapping.
-/

import PolicyBuiltins.Unicode.Cased
import PolicyBuiltins.Unicode.CaseIgnorable
import PolicyBuiltins.Unicode.CaseMapping

namespace PolicyBuiltins.Text

/-- The upper case of a text. -/
def upper (text : List Char) : List Char :=
  text.flatMap Unicode.upperCase

/-- Whether the first character that casing does not look through is a cased
letter. -/
def meetsCasedLetter (text : List Char) : Bool :=
  match text.dropWhile Unicode.isCaseIgnorable with
  | [] => false
  | c :: _ => Unicode.isCased c

/-- The lower case of a capital sigma between the characters `before` it, the
nearest first, and those `after` it. -/
def lowerSigma (before after : List Char) : Char :=
  if meetsCasedLetter before && !meetsCasedLetter after then 'ς' else 'σ'

/-- The lower case of a text that follows the characters `before`, the nearest
first. -/
def lowerAfter (before : List Char) : List Char → List Char
  | [] => []
  | c :: after =>
    (if c = 'Σ' then [lowerSigma before after] else Unicode.lowerCase c) ++
      lowerAfter (c :: before) after

/-- The lower case of a text. -/
def lower (text : List Char) : List Char :=
  lowerAfter [] text

end PolicyBuiltins.Text
