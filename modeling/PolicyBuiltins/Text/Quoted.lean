/-
# Quoted text

The quoted form of a text stands between double quotes.  The quote, the
backslash, the null character, the tab and the two line breaks have short escapes;
a character that would not show, or that would change the look of the character
before it, is written by its code point as `\u{…}`.  Everything else stands for
itself.
-/

import PolicyBuiltins.Numeral.Basic
import PolicyBuiltins.Unicode.DefaultIgnorable
import PolicyBuiltins.Unicode.GraphemeExtend
import PolicyBuiltins.Unicode.Unprintable

namespace PolicyBuiltins.Text

/-- A character that does not show.  The space is taken to show. -/
def isInvisible (c : Char) : Bool :=
  (Unicode.lacksPrintedForm c && c != ' ') || Unicode.isDefaultIgnorable c

/-- A character that quoted text writes by its code point. -/
def isWrittenByCode (c : Char) : Bool :=
  Unicode.marksPrevious c || isInvisible c

/-- The code point of a character in braces, in lower-case hexadecimal. -/
def codeEscape (c : Char) : List Char :=
  '\\' :: 'u' :: '\x7b' :: Numeral.ofNat 16 c.toNat ++ ['\x7d']

/-- The characters that stand for one character inside quotes. -/
def quotedChar (c : Char) : List Char :=
  if c = '\x00' then ['\\', '0']
  else if c = '\t' then ['\\', 't']
  else if c = '\r' then ['\\', 'r']
  else if c = '\n' then ['\\', 'n']
  else if c = '"' then ['\\', '"']
  else if c = '\\' then ['\\', '\\']
  else if isWrittenByCode c then codeEscape c
  else [c]

/-- A text between double quotes, its characters escaped where needed. -/
def quoted (text : List Char) : List Char :=
  '"' :: text.flatMap quotedChar ++ ['"']

/-- The quoted form of a string. -/
def quotedString (text : String) : String :=
  String.ofList (quoted text.toList)

end PolicyBuiltins.Text
