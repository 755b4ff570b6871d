import Stencil.Codegen.StringLiteral
import Stencil.Codegen.Token
import Stencil.Unicode.Identifier
import Stencil.Unicode.WhiteSpace

/-!
# Stencil.Codegen.Lexer

Tokens of Rust code given as text. White space and comments stand between
tokens, but a comment that documents something is written as the attribute that
it means. Literals are tokens as they are written, with the suffix that may
follow them.

Each rule says how many characters it takes after the first, so `tokens?` ends
by the length of what is left.
-/

namespace Stencil.Codegen

open Text Unicode

/-! ## words -/

/-- Whether a word may begin with `c`. -/
def isWordStart (c : Char) : Bool := c == '_' || isXidStart c

/-- What follows the word at the front, without the sign of a raw one. -/
def afterPlainWord? : List Char → Option (List Char)
  | c :: rest => if isWordStart c then some (rest.dropWhile isXidContinue) else none
  | [] => none

/-- The characters of `cs` before those of `rest`, which `cs` ends in. -/
def before (cs rest : List Char) : List Char := cs.take (cs.length - rest.length)

/-- The words that have no raw form. -/
def neverRaw : List String := ["_", "super", "self", "Self", "crate"]

/-- What follows the word at the front. A word may be marked as raw, which makes
a name of most words that are reserved. -/
def afterWord? (cs : List Char) : Option (List Char) :=
  match cs with
  | 'r' :: '#' :: rest => do
    let after ← afterPlainWord? rest
    if neverRaw.contains (String.ofList (before rest after)) then none else some after
  | cs => afterPlainWord? cs

/-- What the text of a literal begins with and no word does. -/
def literalSigns : List String :=
  ["r\"", "r#\"", "r##", "b\"", "b'", "br\"", "br#", "c\"", "cr\"", "cr#"]

/-! ## literals -/

/-- What follows the suffix of a literal, if there is one. -/
def afterSuffix (cs : List Char) : List Char := (afterPlainWord? cs).getD cs

/-- What follows a character in quotes, of which the opening one comes before
`cs`. -/
def afterQuotedChar? (kind : StringKind) (cs : List Char) : Option (List Char) :=
  let after? :=
    match cs with
    | '\\' :: rest => (escape? kind rest).map fun (_, length) => rest.drop length
    | c :: rest => if kind.admits c then some rest else none
    | [] => none
  match after? with
  | some ('\'' :: rest) => some (afterSuffix rest)
  | _ => none

/-- Whether `c` is a decimal digit or a separator of digits. -/
def isDigitOrGap (c : Char) : Bool := c.isDigit || c == '_'

/-- What follows the digits of an exponent, perhaps with a sign; nothing if
there is no digit. -/
def afterExponent? (cs : List Char) : Option (List Char) :=
  let cs := cs.dropWhile (· == '_')
  let cs :=
    match cs with
    | '+' :: rest | '-' :: rest => rest.dropWhile (· == '_')
    | cs => cs
  if cs.head?.any Char.isDigit then some (cs.dropWhile isDigitOrGap) else none

/-- What follows a number with a point or an exponent, without its suffix. A
point before another one or before a word belongs to no number. -/
def afterFraction? (cs : List Char) : Option (List Char) :=
  match cs.dropWhile isDigitOrGap with
  | '.' :: rest =>
    if rest.head?.any fun c => c == '.' || isWordStart c then none
    else
      match rest.dropWhile isDigitOrGap with
      | c :: after =>
        if c == 'e' || c == 'E' then some ((afterExponent? after).getD (c :: after))
        else some (c :: after)
      | [] => some []
  | c :: after => if c == 'e' || c == 'E' then afterExponent? after else none
  | [] => none

/-- What follows the digits of an integer in a base. A decimal digit that the
base does not have spoils the number. -/
def afterDigits? (base : Nat) (cs : List Char) : Option (List Char) :=
  let run := cs.takeWhile fun c => isDigitOrGap c || (hexValue? c).any (· < base)
  if run.any fun c => c.isDigit && (hexValue? c).any (base ≤ ·) then none
  else if run.all (· == '_') then none
  else some (cs.drop run.length)

/-- What follows an integer without its suffix. -/
def afterInteger? (cs : List Char) : Option (List Char) :=
  match cs with
  | '0' :: 'x' :: rest => afterDigits? 16 rest
  | '0' :: 'o' :: rest => afterDigits? 8 rest
  | '0' :: 'b' :: rest => afterDigits? 2 rest
  | cs => afterDigits? 10 cs

/-- What follows the suffix of a number, if the number ends there. -/
def afterNumberSuffix? (cs : List Char) : Option (List Char) :=
  let after := afterSuffix cs
  if after.head?.any isXidContinue then none else some after

/-- What follows a number. -/
def afterNumber? (cs : List Char) : Option (List Char) :=
  match (afterFraction? cs).bind afterNumberSuffix? with
  | some rest => some rest
  | none => (afterInteger? cs).bind afterNumberSuffix?

/-- The literal that stands for one that could not be made. -/
def errorLiteral : String := "(/*ERROR*/)"

/-- What follows a literal. -/
def afterLiteral? (cs : List Char) : Option (List Char) :=
  let afterString (read : Option (List Char × List Char)) := read.map fun (_, rest) =>
    afterSuffix rest
  match cs with
  | '"' :: rest => afterString (readCooked? .text rest)
  | 'r' :: rest => afterString (readRaw? .text rest)
  | 'b' :: '"' :: rest => afterString (readCooked? .octets rest)
  | 'b' :: 'r' :: rest => afterString (readRaw? .octets rest)
  | 'c' :: '"' :: rest => afterString (readCooked? .terminated rest)
  | 'c' :: 'r' :: rest => afterString (readRaw? .terminated rest)
  | 'b' :: '\'' :: rest => afterQuotedChar? .octets rest
  | '\'' :: rest => afterQuotedChar? .text rest
  | '(' :: _ => afterPrefix? errorLiteral.toList cs
  | c :: rest => if c.isDigit then afterNumber? (c :: rest) else none
  | [] => none

/-! ## marks -/

/-- Whether `c` is a mark. -/
def isMark (c : Char) : Bool := "~!@#$%^&*-=+|;:,<.>/?'".toList.contains c

/-- Whether a comment begins here. -/
def startsComment : List Char → Bool
  | '/' :: '/' :: _ => true
  | '/' :: '*' :: _ => true
  | _ => false

/-- Whether a mark that comes before `cs` is joined to another one. -/
def joinsMark (cs : List Char) : Bool := cs.head?.any isMark && !startsComment cs

/-- The mark `c` before `cs`. An apostrophe is a mark only in front of a word
that names a lifetime. -/
def mark? (c : Char) (cs : List Char) : Option Token :=
  if !isMark c then none
  else if c == '\'' then
    match afterWord? cs with
    | none => none
    | some after =>
      if after.head? == some '\'' then none
      else if after.head? == some '#' && (afterPrefix? ['r', '#'] cs).isNone then none
      else some (.mark c true)
  else some (.mark c (joinsMark cs))

/-! ## comments -/

/-- The rest of a line, and what follows, the line feed included. -/
def splitLine : List Char → List Char × List Char
  | [] => ([], [])
  | '\n' :: rest => ([], '\n' :: rest)
  | '\r' :: '\n' :: rest => ([], '\n' :: rest)
  | c :: rest =>
    let (line, after) := splitLine rest
    (c :: line, after)

/-- The content of a comment in which `depth` others are open, and what follows
it. -/
def splitBlock? : Nat → List Char → Option (List Char × List Char)
  | depth, '/' :: '*' :: rest =>
    (splitBlock? (depth + 1) rest).map fun (content, after) => ('/' :: '*' :: content, after)
  | 0, '*' :: '/' :: rest => some ([], rest)
  | depth + 1, '*' :: '/' :: rest =>
    (splitBlock? depth rest).map fun (content, after) => ('*' :: '/' :: content, after)
  | depth, c :: rest =>
    (splitBlock? depth rest).map fun (content, after) => (c :: content, after)
  | _, [] => none

/-- The attribute that documents what comes after it or, if `inner` holds, what
it stands in. -/
def documentation? (inner : Bool) (content : List Char) : Option (List Token) :=
  if hasLoneReturn content then none
  else some <|
    (.mark '#' false :: if inner then [.mark '!' false] else []) ++
      [.opening .square, .word "doc", .mark '=' false,
        .literal (shownLiteral (String.ofList content)), .closing .square]

/-- What a comment over the rest of a line is, its two slashes coming before
`cs`, and what follows it. -/
def lineComment? (cs : List Char) : Option (List Token × List Char) :=
  match cs with
  | '!' :: rest =>
    let (content, after) := splitLine rest
    (documentation? true content).map (·, after)
  | '/' :: '/' :: rest => some ([], (splitLine rest).2)
  | '/' :: rest =>
    let (content, after) := splitLine rest
    (documentation? false content).map (·, after)
  | rest => some ([], (splitLine rest).2)

/-- What a comment in brackets is, whose opening comes before `cs`, and what
follows it. -/
def blockComment? (cs : List Char) : Option (List Token × List Char) := do
  let (content, after) ← splitBlock? 0 cs
  match cs with
  | '!' :: _ => (documentation? true (content.drop 1)).map (·, after)
  | '*' :: '*' :: _ | '*' :: '/' :: _ => some ([], after)
  | '*' :: _ => (documentation? false (content.drop 1)).map (·, after)
  | _ => some ([], after)

/-! ## tokens -/

/-- The bracket that a character is. -/
def bracket? : Char → Option Token
  | '(' => some (.opening .round)
  | '[' => some (.opening .square)
  | '\x7b' => some (.opening .curly)
  | ')' => some (.closing .round)
  | ']' => some (.closing .square)
  | '\x7d' => some (.closing .curly)
  | _ => none

/-- Whether a character stands between tokens. Two marks of the direction of
writing count as white space. -/
def isGap (c : Char) : Bool := isWhiteSpace c || c == '\u200e' || c == '\u200f'

/-- The tokens that `c :: cs` begins with, and what follows them. -/
def lexeme? (c : Char) (cs : List Char) : Option (List Token × List Char) :=
  let all := c :: cs
  if isGap c then some ([], cs)
  else if startsComment all then
    if cs.head? == some '/' then lineComment? (cs.drop 1) else blockComment? (cs.drop 1)
  else
    match afterLiteral? all with
    | some rest => some ([.literal (String.ofList (before all rest))], rest)
    | none =>
      match bracket? c with
      | some token => some ([token], cs)
      | none =>
        match mark? c cs with
        | some token => some ([token], cs)
        | none =>
          if literalSigns.any fun sign => (afterPrefix? sign.toList all).isSome then none
          else (afterWord? all).map fun rest =>
            ([.word (String.ofList (before all rest))], rest)

/-- The tokens of a run of characters. -/
def tokensOf? : List Char → Option (List Token)
  | [] => some []
  | c :: cs =>
    match lexeme? c cs with
    | none => none
    | some (tokens, rest) =>
      (tokensOf? (cs.drop (cs.length - rest.length))).map (tokens ++ ·)
termination_by cs => cs.length
decreasing_by simp only [List.length_cons, List.length_drop]; omega

/-- The mark of byte order, which code may begin with. -/
def byteOrderMark : Char := '\ufeff'

/-- The tokens of code, whose brackets have to match. -/
def tokens? (code : String) : Option (List Token) := do
  let cs := code.toList
  let tokens ← tokensOf? (if cs.head? == some byteOrderMark then cs.drop 1 else cs)
  if balanced [] tokens then some tokens else none

end Stencil.Codegen
