import Stencil.Unicode.CaseMap
import Stencil.Unicode.Cased

/-!
# Stencil.Text.Case

Upper and lower case of whole texts. Every character is mapped by itself, with
one exception: the Greek capital sigma becomes the final small sigma where a
word ends, that is, after a cased character and not before one. Marks that
letter case looks through are skipped on both sides.
-/

namespace Stencil.Text

open Unicode

/-- Whether the first character that letter case does not look through is
cased. -/
def meetsCased (cs : List Char) : Bool :=
  match cs.dropWhile isCaseIgnorable with
  | c :: _ => isCased c
  | [] => false

/-- The small sigma between `before`, given backwards, and `after`. -/
def smallSigma (before after : List Char) : Char :=
  if meetsCased before && !meetsCased after then 'ς' else 'σ'

/-- Lower case of the characters that follow `before`, given backwards. -/
def lowerAfter (before : List Char) : List Char → List Char
  | [] => []
  | c :: cs =>
    (if c == 'Σ' then [smallSigma before cs] else lowerChar c) ++ lowerAfter (c :: before) cs

/-- A text in lower case. -/
def toLower (s : String) : String := String.ofList (lowerAfter [] s.toList)

/-- A text in upper case. -/
def toUpper (s : String) : String := String.ofList (s.toList.flatMap upperChar)

end Stencil.Text
