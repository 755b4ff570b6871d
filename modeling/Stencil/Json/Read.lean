import Stencil.Json.Document
import Stencil.Text.Hex

/-!
# Stencil.Json.Read

Reading JSON texts. `Document.read?` accepts exactly one value with white space
around it. Recursion is bounded by the number of characters: every step of it
takes one at least.
-/

namespace Stencil.Json

/-- The four white space characters of JSON. -/
def isSpace (c : Char) : Bool := c == ' ' || c == '\t' || c == '\n' || c == '\r'

/-- What follows the white space at the front. -/
def skipSpace (cs : List Char) : List Char := cs.dropWhile isSpace

/-! ## strings -/

/-- A part of a string: a character, or a code unit written by its number. -/
inductive Piece where
  | char (c : Char)
  | unit (n : Nat)

/-- The character that a letter stands for after a backslash. -/
def escaped? (c : Char) : Option Char :=
  if c == '"' || c == '\\' || c == '/' then some c
  else if c == 'b' then some '\x08'
  else if c == 'f' then some '\x0c'
  else if c == 'n' then some '\n'
  else if c == 'r' then some '\r'
  else if c == 't' then some '\t'
  else none

/-- The parts of a string up to its closing quote, and what follows. -/
def readPieces? : List Char → Option (List Piece × List Char)
  | [] => none
  | '"' :: rest => some ([], rest)
  | '\\' :: 'u' :: a :: b :: c :: d :: rest => do
    let n ← Text.hexNumber? [a, b, c, d]
    let (pieces, rest) ← readPieces? rest
    return (.unit n :: pieces, rest)
  | '\\' :: letter :: rest => do
    let c ← escaped? letter
    let (pieces, rest) ← readPieces? rest
    return (.char c :: pieces, rest)
  | c :: rest =>
    if c < ' ' || c == '\\' then none
    else do
      let (pieces, rest) ← readPieces? rest
      return (.char c :: pieces, rest)

/-- The characters that the parts of a string stand for. Two code units make
one character where they are the halves of a surrogate pair, and half a pair
stands for nothing. -/
def joinPieces? : List Piece → Option (List Char)
  | [] => some []
  | .char c :: rest => (joinPieces? rest).map (c :: ·)
  | .unit high :: .unit low :: rest =>
    if 0xD800 ≤ high ∧ high < 0xDC00 then
      if 0xDC00 ≤ low ∧ low < 0xE000 then
        (joinPieces? rest).map
          (Char.ofNat (0x10000 + (high - 0xD800) * 0x400 + (low - 0xDC00)) :: ·)
      else none
    else if 0xDC00 ≤ high ∧ high < 0xE000 then none
    else (joinPieces? (.unit low :: rest)).map (Char.ofNat high :: ·)
  | .unit n :: rest =>
    if 0xD800 ≤ n ∧ n < 0xE000 then none else (joinPieces? rest).map (Char.ofNat n :: ·)

/-- The text of a string after its opening quote, and what follows. -/
def readString? (cs : List Char) : Option (Option String × List Char) :=
  (readPieces? cs).map fun (pieces, rest) => ((joinPieces? pieces).map String.ofList, rest)

/-! ## numbers -/

/-- An exponent part, or none, and what follows. -/
def readExponent? (cs : List Char) : Option (Option Int × List Char) :=
  match cs with
  | letter :: rest =>
    if letter == 'e' || letter == 'E' then
      let (negative, rest) :=
        match rest with
        | '-' :: ds => (true, ds)
        | '+' :: ds => (false, ds)
        | ds => (false, ds)
      let (digits, rest) := spanDigits rest
      if digits.isEmpty then none
      else some (some (Binary64.signed negative (digitsValue digits)), rest)
    else some (none, cs)
  | [] => some (none, [])

/-- A fraction, or none, and what follows. -/
def readFraction? (cs : List Char) : Option (Option (List Char) × List Char) :=
  match cs with
  | '.' :: rest =>
    let (digits, rest) := spanDigits rest
    if digits.isEmpty then none else some (some digits, rest)
  | cs => some (none, cs)

/-- A number, and what follows. No zero stands before other digits. -/
def readNumber? (cs : List Char) : Option (Document × List Char) := do
  let (negative, cs) :=
    match cs with
    | '-' :: ds => (true, ds)
    | ds => (false, ds)
  let (whole, rest) := spanDigits cs
  if whole.isEmpty || (whole.head? == some '0' && whole.length != 1) then none
  else
    let (fraction, rest) ← readFraction? rest
    let (exponent, rest) ← readExponent? rest
    return (.number (.ofParts negative whole (fraction.getD []) (exponent.getD 0))
      (fraction.isNone && exponent.isNone), rest)

/-! ## values -/

mutual

/-- A value, and what follows. -/
def readValue? : Nat → List Char → Option (Document × List Char)
  | 0, _ => none
  | fuel + 1, cs =>
    match skipSpace cs with
    | 'n' :: 'u' :: 'l' :: 'l' :: rest => some (.null, rest)
    | 't' :: 'r' :: 'u' :: 'e' :: rest => some (.bool true, rest)
    | 'f' :: 'a' :: 'l' :: 's' :: 'e' :: rest => some (.bool false, rest)
    | '"' :: rest => (readString? rest).map fun (s, rest) => (.string s, rest)
    | '[' :: rest =>
      match skipSpace rest with
      | ']' :: rest => some (.array [], rest)
      | rest => (readItems? fuel rest).map fun (items, rest) => (.array items, rest)
    | '\x7b' :: rest =>
      match skipSpace rest with
      | '\x7d' :: rest => some (.object [], rest)
      | rest => (readFields? fuel rest).map fun (fields, rest) => (.object fields, rest)
    | rest => readNumber? rest

/-- The items of an array up to its closing bracket, and what follows. -/
def readItems? : Nat → List Char → Option (List Document × List Char)
  | 0, _ => none
  | fuel + 1, cs => do
    let (item, rest) ← readValue? fuel cs
    match skipSpace rest with
    | ',' :: rest => (readItems? fuel rest).map fun (items, rest) => (item :: items, rest)
    | ']' :: rest => some ([item], rest)
    | _ => none

/-- The fields of an object up to its closing brace, and what follows. -/
def readFields? : Nat → List Char → Option (List (Option String × Document) × List Char)
  | 0, _ => none
  | fuel + 1, cs => do
    let '"' :: rest := skipSpace cs | none
    let (key, rest) ← readString? rest
    let ':' :: rest := skipSpace rest | none
    let (value, rest) ← readValue? fuel rest
    match skipSpace rest with
    | ',' :: rest =>
      (readFields? fuel rest).map fun (fields, rest) => ((key, value) :: fields, rest)
    | '\x7d' :: rest => some ([(key, value)], rest)
    | _ => none

end

/-- The document that a JSON text is. -/
def Document.read? (s : String) : Option Document := do
  let cs := s.toList
  let (document, rest) ← readValue? (cs.length + 1) cs
  if (skipSpace rest).isEmpty then some document else none

/-- The value that a JSON text means. -/
def read? (s : String) : Option Json := do
  let document ← Document.read? s
  document.toJson?

end Stencil.Json
