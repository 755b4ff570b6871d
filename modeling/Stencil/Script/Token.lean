import Stencil.Number.Binary64

/-!
# Stencil.Script.Token

The tokens of the script language. Words that the grammar reserves are
identifiers for the lexer; `Keyword.ofName?` tells them apart where it matters,
since after a point any word is the name of a property. One token is not
written by anybody: `emit` stands for a text or a value between two markers.
-/

namespace Stencil.Script

/-- Operators and punctuation. -/
inductive Punct where
  | strictEq | strictNe | looseEq | looseNe | le | ge | and | or | plusAssign | minusAssign
  | lparen | rparen | lbrace | rbrace | lbracket | rbracket
  | comma | semicolon | colon | dot | question | bang | assign
  | lt | gt | plus | minus | star | slash | percent
  deriving DecidableEq, Repr

namespace Punct

/-- How an operator or a punctuation mark is written. -/
def spelling : Punct → String
  | strictEq => "===" | strictNe => "!==" | looseEq => "==" | looseNe => "!="
  | le => "<=" | ge => ">=" | and => "&&" | or => "||"
  | plusAssign => "+=" | minusAssign => "-="
  | lparen => "(" | rparen => ")" | lbrace => "\x7b" | rbrace => "\x7d"
  | lbracket => "[" | rbracket => "]"
  | comma => "," | semicolon => ";" | colon => ":" | dot => "."
  | question => "?" | bang => "!" | assign => "="
  | lt => "<" | gt => ">" | plus => "+" | minus => "-"
  | star => "*" | slash => "/" | percent => "%"

/-- All of them, none after one that it begins with. -/
def all : List Punct :=
  [strictEq, strictNe, looseEq, looseNe, le, ge, and, or, plusAssign, minusAssign,
   lparen, rparen, lbrace, rbrace, lbracket, rbracket,
   comma, semicolon, colon, dot, question, bang, assign,
   lt, gt, plus, minus, star, slash, percent]

end Punct

/-- The words that are not names. -/
inductive Keyword where
  | ifWord | elseWord | forWord | letWord | constWord | varWord | inWord
  | trueWord | falseWord | nullWord | undefinedWord
  deriving DecidableEq, Repr

namespace Keyword

/-- How a keyword is written. -/
def spelling : Keyword → String
  | ifWord => "if" | elseWord => "else" | forWord => "for"
  | letWord => "let" | constWord => "const" | varWord => "var" | inWord => "in"
  | trueWord => "true" | falseWord => "false"
  | nullWord => "null" | undefinedWord => "undefined"

/-- All keywords. -/
def all : List Keyword :=
  [ifWord, elseWord, forWord, letWord, constWord, varWord, inWord,
   trueWord, falseWord, nullWord, undefinedWord]

/-- The keyword that a word is, if it is one. -/
def ofName? (name : String) : Option Keyword := all.find? fun k => k.spelling == name

/-- Whether a keyword declares variables. -/
def declares (k : Keyword) : Bool := k = .letWord || k = .constWord || k = .varWord

end Keyword

/-- What a token is. -/
inductive Tok where
  | ident (name : String)
  | number (x : Binary64)
  | string (s : String)
  | punct (p : Punct)
  /-- The output of the given number, in place of a text or a value. -/
  | emit (index : Nat)
  deriving DecidableEq, Repr

/-- A token and the offset, in octets, of its first character. -/
structure Token where
  tok : Tok
  offset : Nat
  deriving DecidableEq, Repr

end Stencil.Script
