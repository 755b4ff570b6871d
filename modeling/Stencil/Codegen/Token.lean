import Stencil.Codegen.Name

/-!
# Stencil.Codegen.Token

Tokens of Rust code. Brackets are tokens of their own; `balanced` says that they
match. A mark is a single character, and it is joined to the next one if another
mark follows at once: operators of several characters are runs of joined marks.
-/

namespace Stencil.Codegen

/-- The kinds of brackets. -/
inductive Bracket where
  | round | square | curly
  deriving DecidableEq, Repr

/-- A token. -/
inductive Token where
  /-- An identifier or a keyword. -/
  | word (text : String)
  /-- A literal as it is written. -/
  | literal (text : String)
  /-- A punctuation character. -/
  | mark (c : Char) (joined : Bool)
  | opening (b : Bracket)
  | closing (b : Bracket)
  deriving DecidableEq, Repr

/-- The text of a token. -/
def Token.text : Token → String
  | .word text => text
  | .literal text => text
  | .mark c _ => String.singleton c
  | .opening .round => "("
  | .opening .square => "["
  | .opening .curly => "\x7b"
  | .closing .round => ")"
  | .closing .square => "]"
  | .closing .curly => "\x7d"

/-- Whether every bracket is closed by one of its kind, where those in `inner`
are open already, the innermost in front. -/
def balanced : List Bracket → List Token → Bool
  | inner, [] => inner.isEmpty
  | inner, .opening b :: rest => balanced (b :: inner) rest
  | [], .closing _ :: _ => false
  | a :: inner, .closing b :: rest => a == b && balanced inner rest
  | inner, _ :: rest => balanced inner rest

/-- Whether a word is the name of something. -/
def isName (word : String) : Bool := !reservedWords.contains word

end Stencil.Codegen
