/-!
# Stencil.Unicode.Ranges

A character class given as a table of closed ranges of code points. The tables
of the classes in this folder leave out ASCII: each class tells its ASCII
members apart by plain comparisons, which is what nearly every text needs, and
looks up the table for the others only.
-/

namespace Stencil.Unicode

/-- Whether the code point of `c` lies in one of the ranges. -/
def inRanges (table : List (Nat × Nat)) (c : Char) : Bool :=
  table.any fun (first, last) => first ≤ c.toNat && c.toNat ≤ last

/-- Whether `c` is an ASCII character. -/
def isAscii (c : Char) : Bool := c.toNat < 0x80

/-- Membership in a class with the ASCII members `ascii` and the other members
in `table`. -/
def inClass (ascii : Char → Bool) (table : List (Nat × Nat)) (c : Char) : Bool :=
  if isAscii c then ascii c else inRanges table c

end Stencil.Unicode
