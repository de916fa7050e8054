/-
# White space

The characters with the property `White_Space`: the ASCII controls from the
tab to the carriage return, the space, and the separators of other scripts.
A literal is read, and `trim_space` trims, between such characters.
-/

import PolicyBuiltins.Unicode.Runs

namespace PolicyBuiltins.Unicode

/-- The runs of characters with the property `White_Space`. -/
def whiteSpaceRuns : Runs :=
  [(0x9, 0xD), (0x20, 0x20), (0x85, 0x85), (0xA0, 0xA0), (0x1680, 0x1680), (0x2000, 0x200A),
   (0x2028, 0x2029), (0x202F, 0x202F), (0x205F, 0x205F), (0x3000, 0x3000)]

/-- White space, as both the reader of numbers and `trim_space` understand it. -/
def isWhiteSpace (c : Char) : Bool :=
  whiteSpaceRuns.holds c.toNat

end PolicyBuiltins.Unicode
