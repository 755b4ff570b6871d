import Stencil.Text.Trim
import Stencil.Unicode.Ranges

/-!
# Stencil.Unicode.WhiteSpace

The Unicode property White_Space.
-/

namespace Stencil.Unicode

/-- The white space outside ASCII. -/
def whiteSpaceRanges : List (Nat × Nat) := [
  (0x85, 0x85), (0xA0, 0xA0), (0x1680, 0x1680), (0x2000, 0x200A), (0x2028, 0x2029),
  (0x202F, 0x202F), (0x205F, 0x205F), (0x3000, 0x3000)]

/-- White space in ASCII: the space and the controls from tab to carriage return. -/
def isAsciiWhiteSpace (c : Char) : Bool := c == ' ' || ('\t' ≤ c && c ≤ '\r')

/-- Whether a character has the property White_Space. -/
def isWhiteSpace (c : Char) : Bool := inClass isAsciiWhiteSpace whiteSpaceRanges c

/-- A text without white space at its two ends. -/
def trimWhiteSpace (s : String) : String := Text.trimEnds isWhiteSpace s

end Stencil.Unicode
