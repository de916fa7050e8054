/-
# Sets of characters as runs of code points

A property of the character database is kept as its runs: pairs of a first and
a last code point, both included, ascending and apart from one another.  The
search gives up at the first run beyond the code point, so a character near the
start of the database, such as any ASCII character, is settled at once.
-/

namespace PolicyBuiltins.Unicode

/-- Ascending, separate intervals of code points, ends included. -/
abbrev Runs := List (Nat × Nat)

/-- Whether one of the runs holds the code point. -/
def Runs.holds : Runs → Nat → Bool
  | [], _ => false
  | (first, last) :: later, code =>
    if code < first then false
    else if code ≤ last then true
    else Runs.holds later code

end PolicyBuiltins.Unicode
