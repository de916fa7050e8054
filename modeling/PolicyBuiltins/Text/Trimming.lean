/-
# Trimming a text

Trimming takes characters away from one end, or from both, as long as they
satisfy a test.
-/

import PolicyBuiltins.Unicode.WhiteSpace

namespace PolicyBuiltins.Text

/-- The text without the leading characters that satisfy the test. -/
def trimLeft (test : Char → Bool) (text : List Char) : List Char :=
  text.dropWhile test

/-- The text without the trailing characters that satisfy the test. -/
def trimRight (test : Char → Bool) (text : List Char) : List Char :=
  (text.reverse.dropWhile test).reverse

/-- The text without leading or trailing characters that satisfy the test. -/
def trim (test : Char → Bool) (text : List Char) : List Char :=
  trimRight test (trimLeft test text)

/-- The text without white space at its ends. -/
def trimSpace (text : List Char) : List Char :=
  trim Unicode.isWhiteSpace text

/-- The text without one occurrence of `start` at its beginning. -/
def dropStart (start text : List Char) : List Char :=
  if start.isPrefixOf text then text.drop start.length else text

/-- The text without one occurrence of `ending` at its end. -/
def dropEnding (ending text : List Char) : List Char :=
  if ending.isSuffixOf text then text.take (text.length - ending.length) else text

end PolicyBuiltins.Text
