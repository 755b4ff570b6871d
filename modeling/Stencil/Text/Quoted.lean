import Stencil.Unicode.GraphemeExtend
import Stencil.Unicode.Printable

/-!
# Stencil.Text.Quoted

Texts and characters in quotes, as they are shown in messages. The quote in use
and the backslash are escaped by a backslash, the usual controls by a letter,
and every character that would not be seen by its code point: `\u{301}`. Marks
that extend the character before them are written so too. Of these the two
halfwidth marks of Japanese sounds are not: they stand beside that character.
-/

namespace Stencil.Text

open Unicode

/-- The code point of a character in lower case hexadecimal digits. -/
def hexDigits (c : Char) : List Char := Nat.toDigits 16 c.toNat

/-- A character written by its code point. -/
def codePoint (c : Char) : List Char := ['\\', 'u', '\x7b'] ++ hexDigits c ++ ['\x7d']

/-- Whether a character is written by its code point. -/
def isHidden (c : Char) : Bool :=
  isGraphemeExtend c && c != '\uff9e' && c != '\uff9f' || !isPrintable c

/-- A character as it stands between two characters `quote`. -/
def quotedChar (quote c : Char) : List Char :=
  if c == '\x00' then ['\\', '0']
  else if c == '\t' then ['\\', 't']
  else if c == '\r' then ['\\', 'r']
  else if c == '\n' then ['\\', 'n']
  else if c == '\\' || c == quote then ['\\', c]
  else if isHidden c then codePoint c
  else [c]

/-- A text in double quotes. -/
def quoteText (s : String) : String :=
  String.ofList ('"' :: s.toList.flatMap (quotedChar '"') ++ ['"'])

/-- A character in single quotes. -/
def quoteChar (c : Char) : String := String.ofList ('\'' :: quotedChar '\'' c ++ ['\''])

end Stencil.Text
