import Stencil.Text.Find
import Stencil.Text.Hex
import Stencil.Text.Quoted

/-!
# Stencil.Codegen.StringLiteral

String literals of Rust, the language of generated code.

1. `literal` writes a text as it stands in the body of a function: quotes,
   backslashes and all line breaks are escaped, so a literal keeps to one line;
2. `shownLiteral` writes a text so that every character of it can be seen;
3. `readCooked?` and `readRaw?` read the three kinds of strings that the
   language has.
-/

namespace Stencil.Codegen

open Text

/-! ## writing -/

/-- A character between the quotes of a literal. -/
def literalChar (c : Char) : List Char :=
  if c == '"' || c == '\\' then ['\\', c]
  else if c == '\r' then ['\\', 'r']
  else if c == '\n' then ['\\', 'n']
  else if c == '\u2028' || c == '\u2029' then codePoint c
  else [c]

/-- A text as a literal. -/
def literal (s : String) : String :=
  String.ofList ('"' :: s.toList.flatMap literalChar ++ ['"'])

/-- Characters between the quotes of a literal in which every character can be
seen. A null before an octal digit is written in full, so that the two are not
taken for one escape. -/
def shownChars : List Char → List Char
  | [] => []
  | c :: cs =>
    (if c == '\x00' && cs.head?.any fun d => '0' ≤ d && d ≤ '7' then ['\\', 'x', '0', '0']
      else quotedChar '"' c) ++ shownChars cs

/-- A text as a literal in which every character can be seen. -/
def shownLiteral (s : String) : String :=
  String.ofList ('"' :: shownChars s.toList ++ ['"'])

/-! ## kinds of strings -/

/-- The kinds of strings. -/
inductive StringKind where
  /-- A text. -/
  | text
  /-- A sequence of octets. -/
  | octets
  /-- A text that a null ends, so it holds none itself. -/
  | terminated
  deriving DecidableEq, Repr

/-- Whether a character may stand for itself in a string. -/
def StringKind.admits (kind : StringKind) (c : Char) : Bool :=
  match kind with
  | .text => true
  | .octets => c.val < 0x80
  | .terminated => c != '\x00'

/-! ## escapes -/

/-- The number of two hexadecimal digits at the front. -/
def twoDigits? : List Char → Option Nat
  | a :: b :: _ => hexNumber? [a, b]
  | _ => none

/-- The code point that stands in braces at the front, and the number of
characters up to the closing brace. There are at most six digits, and
underscores may follow the first. -/
def bracedCodePoint? : List Char → Option (Char × Nat)
  | '\x7b' :: rest => do
    let (inner, _) ← cutAt? ['\x7d'] rest
    let digits := inner.filter (· != '_')
    if inner.head? == some '_' || digits.isEmpty || 6 < digits.length then none
    else
      let n ← hexNumber? digits
      let c ← charOf? n
      return (c, inner.length + 2)
  | _ => none

/-- The character that an escape stands for whose backslash comes before `cs`,
and the number of characters that it takes. -/
def escape? (kind : StringKind) : List Char → Option (Char × Nat)
  | 'n' :: _ => some ('\n', 1)
  | 'r' :: _ => some ('\r', 1)
  | 't' :: _ => some ('\t', 1)
  | '\\' :: _ => some ('\\', 1)
  | '\'' :: _ => some ('\'', 1)
  | '"' :: _ => some ('"', 1)
  | '0' :: _ => if kind = .terminated then none else some ('\x00', 1)
  | 'x' :: rest => do
    let n ← twoDigits? rest
    match kind with
    | .text => if n < 0x80 then some (Char.ofNat n, 3) else none
    | .octets => some (Char.ofNat n, 3)
    | .terminated => if n = 0 then none else some (Char.ofNat n, 3)
  | 'u' :: rest => do
    let (c, length) ← bracedCodePoint? rest
    match kind with
    | .text => some (c, length + 1)
    | .octets => none
    | .terminated => if c = '\x00' then none else some (c, length + 1)
  | _ => none

/-! ## reading -/

/-- What follows the blanks at the front of a line that goes on with a string.
A carriage return is a blank only before a line feed. -/
def skipBlanks? : List Char → Option (List Char)
  | ' ' :: rest => skipBlanks? rest
  | '\t' :: rest => skipBlanks? rest
  | '\n' :: rest => skipBlanks? rest
  | '\r' :: '\n' :: rest => skipBlanks? rest
  | '\r' :: _ => none
  | rest => some rest

theorem length_le_of_skipBlanks? {cs rest : List Char} (h : skipBlanks? cs = some rest) :
    rest.length ≤ cs.length := by
  fun_induction skipBlanks? cs with
  | case1 _ ih | case2 _ ih | case3 _ ih | case4 _ ih =>
    have := ih h
    simp only [List.length_cons]
    omega
  | case5 => contradiction
  | case6 => simp_all

/-- The characters that a string stands for whose opening quote comes before
`cs`, and what follows its closing quote. A line break may be hidden by a
backslash, together with the blanks after it, and a carriage return stands only
before a line feed, which is all that is left of the two. -/
def readCooked? (kind : StringKind) (cs : List Char) : Option (List Char × List Char) :=
  match cs with
  | [] => none
  | '"' :: rest => some ([], rest)
  | '\r' :: '\n' :: rest =>
    (readCooked? kind rest).map fun (value, rest) => ('\n' :: value, rest)
  | '\r' :: _ => none
  | '\\' :: rest =>
    if rest.head? == some '\n' || rest.head? == some '\r' then
      match _h : skipBlanks? rest with
      | some rest => readCooked? kind rest
      | none => none
    else
      match escape? kind rest with
      | some (c, length) =>
        (readCooked? kind (rest.drop length)).map fun (value, rest) => (c :: value, rest)
      | none => none
  | c :: rest =>
    if kind.admits c then
      (readCooked? kind rest).map fun (value, rest) => (c :: value, rest)
    else none
termination_by cs.length
decreasing_by
  · simp only [List.length_cons]; omega
  · have := length_le_of_skipBlanks? _h
    simp only [List.length_cons]
    omega
  · simp only [List.length_cons, List.length_drop]; omega
  · simp

/-- Whether some carriage return is not followed by a line feed. -/
def hasLoneReturn : List Char → Bool
  | [] => false
  | '\r' :: '\n' :: rest => hasLoneReturn rest
  | '\r' :: _ => true
  | _ :: rest => hasLoneReturn rest

/-- The greatest number of signs around a string without escapes. -/
def maxFence : Nat := 255

/-- The characters of a string without escapes, and what follows it. It stands
between quotes and, outside these, equal runs of number signs. -/
def readRaw? (kind : StringKind) (cs : List Char) : Option (List Char × List Char) :=
  let fence := cs.takeWhile (· == '#')
  match cs.dropWhile (· == '#') with
  | '"' :: rest =>
    if maxFence < fence.length then none
    else
      match cutAt? ('"' :: fence) rest with
      | some (value, rest) =>
        if value.all kind.admits && !hasLoneReturn value then some (value, rest) else none
      | none => none
  | _ => none

end Stencil.Codegen
