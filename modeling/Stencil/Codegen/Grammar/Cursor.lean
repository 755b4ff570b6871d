import Stencil.Codegen.Token

/-!
# Stencil.Codegen.Grammar.Cursor

Reading a run of tokens from its front. A reader takes the tokens of a phrase
and writes the phrase again:

1. most readers write each token where they take it;
2. `apart` and `write` let a reader leave out what it took, or put it elsewhere;
3. `asReadIf` goes back to the tokens as they were.

A phrase in brackets that ends before they close does not stop a reader. It is
noted in `Cursor.whole`, so a mistake that is found later still counts first.

Loops are bounded by the number of tokens ahead: each turn but the last takes
one of them.
-/

namespace Stencil.Codegen.Grammar

/-! ## what is ahead -/

/-- Whether the marks of an operator come next, joined to each other. -/
def startsRun : List Char → List Token → Bool
  | [c], .mark d _ :: _ => c == d
  | c :: cs, .mark d true :: rest => c == d && startsRun cs rest
  | _, _ => false

/-- Whether an operator comes next. It may be the beginning of a longer one. -/
def startsMarks (marks : String) (ts : List Token) : Bool := startsRun marks.toList ts

/-- Whether the word `text` comes next. -/
def startsWord (text : String) (ts : List Token) : Bool := ts.head? == some (.word text)

/-- Whether one of some words comes next. -/
def startsWordOf (texts : List String) (ts : List Token) : Bool :=
  texts.any (startsWord · ts)

/-- Whether a word comes next, reserved or not. -/
def startsAnyWord : List Token → Bool
  | .word _ :: _ => true
  | _ => false

/-- Whether a name comes next. -/
def startsName : List Token → Bool
  | .word text :: _ => isName text
  | _ => false

/-- The words that stand for a place in a path. -/
def placeWords : List String := ["super", "self", "Self", "crate"]

/-- Whether a lifetime comes next: an apostrophe and a word. -/
def startsLifetime : List Token → Bool
  | .mark '\'' _ :: .word _ :: _ => true
  | _ => false

/-- Whether an opening bracket comes next. -/
def startsOpening (b : Bracket) (ts : List Token) : Bool := ts.head? == some (.opening b)

/-- Whether an opening bracket of any kind comes next. -/
def startsGroup : List Token → Bool
  | .opening _ :: _ => true
  | _ => false

/-- Whether the tokens end here, or the brackets around them. -/
def isEnd : List Token → Bool
  | [] => true
  | .closing _ :: _ => true
  | _ => false

/-- Whether a literal is a number. -/
def isNumber (text : String) : Bool := text.toList.head?.any Char.isDigit

/-- Whether a constant comes next: a literal, a number with a minus sign, or a
truth value. -/
def startsConstant : List Token → Bool
  | .literal _ :: _ => true
  | .mark '-' _ :: .literal text :: _ => isNumber text
  | ts => startsWordOf ["true", "false"] ts

/-- Whether a text comes next as a literal. -/
def startsText : List Token → Bool
  | .literal text :: _ => text.toList.head?.any fun c => c == '"' || c == 'r'
  | _ => false

/-- What follows the bracket that closes `depth + 1` open ones. -/
def afterClosing : Nat → List Token → List Token
  | _, [] => []
  | depth, .opening _ :: rest => afterClosing (depth + 1) rest
  | 0, .closing _ :: rest => rest
  | depth + 1, .closing _ :: rest => afterClosing depth rest
  | depth, _ :: rest => afterClosing depth rest

/-- What follows the first token, where a lifetime and a pair of brackets with
all that it holds count as one. -/
def afterFirst : List Token → List Token
  | .mark '\'' _ :: .word _ :: rest => rest
  | .opening _ :: rest => afterClosing 0 rest
  | ts => ts.drop 1

/-- What follows names with pairs of colons between them, the first of which
comes next. -/
def afterNames? : List Token → Option (List Token)
  | .word text :: .mark ':' true :: .mark ':' _ :: rest =>
    if isName text || placeWords.contains text then afterNames? rest else none
  | .word text :: rest => if isName text || placeWords.contains text then some rest else none
  | _ => none

/-- What follows a path without arguments that comes next. -/
def afterPlainPath? (ts : List Token) : Option (List Token) :=
  afterNames? (if startsMarks "::" ts then ts.drop 2 else ts)

/-! ## readers -/

/-- A place in a run of tokens. -/
structure Cursor where
  /-- The tokens that come next. -/
  ahead : List Token
  /-- What is written for those before, the last one in front. -/
  written : List Token
  /-- Whether all brackets so far closed where the phrase in them ended. -/
  whole : Bool

/-- A reader of a phrase. -/
abbrev Reader (α : Type) : Type := StateT Cursor Option α

/-- The tokens that come next. -/
def ahead : Reader (List Token) := return (← get).ahead

/-- Whether the tokens that come next are of a kind. -/
def comes (p : List Token → Bool) : Reader Bool := return p (← ahead)

/-- Takes some tokens. -/
def take (n : Nat) : Reader Unit :=
  modify fun c =>
    { c with ahead := c.ahead.drop n, written := (c.ahead.take n).reverse ++ c.written }

/-- Takes `n` tokens of a kind, which have to come next. -/
def takeIf (n : Nat) (p : List Token → Bool) : Reader Unit := do
  guard (← comes p)
  take n

/-- Takes an operator. -/
def marks (text : String) : Reader Unit := takeIf text.length (startsMarks text)

/-- Takes a word. -/
def word (text : String) : Reader Unit := takeIf 1 (startsWord text)

/-- Takes a name. -/
def name : Reader Unit := takeIf 1 startsName

/-- Takes a lifetime. -/
def lifetime : Reader Unit := takeIf 2 startsLifetime

/-- Takes a constant. -/
def constant : Reader Unit := do
  guard (← comes startsConstant)
  take (if (← comes (startsMarks "-")) then 2 else 1)

/-- Reads a phrase if the tokens that come next are of a kind. -/
def readIf (p : List Token → Bool) (r : Reader Unit) : Reader Unit := do
  if (← comes p) then r

/-- Takes a word if it comes next. -/
def optionalWord (text : String) : Reader Unit := readIf (startsWord text) (take 1)

/-- Takes an operator if it comes next. -/
def optionalMarks (text : String) : Reader Unit :=
  readIf (startsMarks text) (take text.length)

/-! ## what is written -/

/-- Writes tokens. -/
def write (ts : List Token) : Reader Unit :=
  modify fun c => { c with written := ts.reverse ++ c.written }

/-- Takes back the last tokens that were written. -/
def unwrite (n : Nat) : Reader Unit :=
  modify fun c => { c with written := c.written.drop n }

/-- Reads a phrase without writing it, and hands over what would be written. -/
def apart {α : Type} (r : Reader α) : Reader (α × List Token) := do
  let outer := (← get).written
  modify fun c => { c with written := [] }
  let a ← r
  let inner := (← get).written
  modify fun c => { c with written := outer }
  return (a, inner.reverse)

/-- Reads a phrase, which is written as it was read if `p` holds of the
result. -/
def asReadIf {α : Type} (p : α → Bool) (r : Reader α) : Reader α := do
  let start ← get
  let a ← r
  if p a then
    modify fun c =>
      let taken := start.ahead.take (start.ahead.length - c.ahead.length)
      { c with written := taken.reverse ++ start.written }
  return a

/-! ## brackets -/

/-- Reads a phrase between brackets. What is left over there is passed over. -/
def within {α : Type} (b : Bracket) (r : Reader α) : Reader α := do
  takeIf 1 (startsOpening b)
  let a ← r
  if (← comes isEnd) then take 1
  else modify fun c => { c with ahead := afterClosing 0 c.ahead, whole := false }
  return a

/-- Takes a pair of brackets with all that it holds. -/
def group : Reader Unit := do
  let ts ← ahead
  guard (startsGroup ts)
  take (ts.length - (afterFirst ts).length)

/-! ## loops -/

/-- Takes at most `n` steps, each of which says whether another one follows. -/
def iterateFor {α : Type} (step : α → Reader (α × Bool)) : Nat → α → Reader α
  | 0, a => return a
  | n + 1, a => do
    let (b, more) ← step a
    if more then iterateFor step n b else return b

/-- Takes steps, each of which says whether another one follows. -/
def iterate {α : Type} (step : α → Reader (α × Bool)) (a : α) : Reader α := do
  iterateFor step ((← ahead).length + 1) a

/-- Reads phrases, each of which says whether another one follows. -/
def repeatedly (r : Reader Bool) : Reader Unit :=
  iterate (fun _ => return ((), ← r)) ()

/-- Reads phrases while the tokens that come next are of a kind. -/
def readWhile (p : List Token → Bool) (r : Reader Unit) : Reader Unit :=
  repeatedly do
    if (← comes p) then
      r
      return true
    else return false

/-- Reads phrases with an operator between them up to tokens of a kind. The
operator may also stand at the end. -/
def separatedBy (separator : String) (stop : List Token → Bool) (r : Reader Unit) :
    Reader Unit :=
  repeatedly do
    if (← comes stop) then return false
    r
    if (← comes stop) then return false
    marks separator
    return true

/-- Reads phrases with commas between them up to the closing bracket. -/
def list (r : Reader Unit) : Reader Unit := separatedBy "," isEnd r

end Stencil.Codegen.Grammar
