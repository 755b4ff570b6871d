/-!
# Stencil.Text.Trim

Removing characters of a class from both ends of a text. Two classes belong to
the template language: line endings (carriage return and line feed) and blanks
(space, tab, form feed and the line endings).
-/

namespace Stencil.Text

/-- What is left of a run of characters without the members of `p` at its two
ends. -/
def trimChars (p : Char → Bool) (cs : List Char) : List Char :=
  ((cs.dropWhile p).reverse.dropWhile p).reverse

/-- What is left of a text without the members of `p` at its two ends. -/
def trimEnds (p : Char → Bool) (s : String) : String := String.ofList (trimChars p s.toList)

/-- Carriage return and line feed. -/
def isLineEnding (c : Char) : Bool := c == '\r' || c == '\n'

/-- Space, tab, form feed, carriage return and line feed. -/
def isBlank (c : Char) : Bool := c == ' ' || c == '\t' || c == '\x0c' || isLineEnding c

/-- A text without line endings at its two ends. -/
def trimLineEndings (s : String) : String := trimEnds isLineEnding s

/-- A text without blanks at its two ends. -/
def trimBlanks (s : String) : String := trimEnds isBlank s

@[simp] theorem toList_trimEnds (p : Char → Bool) (s : String) :
    (trimEnds p s).toList = trimChars p s.toList := by
  simp [trimEnds]

end Stencil.Text
