import Stencil.Script.Token
import Stencil.Text.Quoted

/-!
# Stencil.Script.Cause

What can be wrong with the code of a template, and what can go wrong when it
runs.
-/

namespace Stencil.Script

/-- Why code is not accepted. -/
inductive SyntaxCause where
  | unterminatedComment
  | unterminatedString
  | invalidEscape
  | unexpectedCharacter (c : Char)
  /-- A punctuation mark has to stand here. -/
  | expected (p : Punct)
  | expectedIdentifier
  | expectedProperty
  | expectedOfOrIn
  /-- An expression is complete and something follows it. -/
  | afterExpression
  | endOfExpression
  | unexpectedKeyword (k : Keyword)
  | unexpectedToken
  | unexpectedClose
  | unclosedBlock
  | elseWithoutIf
  deriving DecidableEq, Repr

/-- The message for a cause. -/
def SyntaxCause.message : SyntaxCause → String
  | unterminatedComment => "unterminated comment"
  | unterminatedString => "unterminated string"
  | invalidEscape => "invalid unicode escape"
  | unexpectedCharacter c => "unexpected character " ++ Text.quoteChar c
  | expected p => "expected " ++ p.spelling
  | expectedIdentifier => "expected identifier"
  | expectedProperty => "expected property name"
  | expectedOfOrIn => "expected of or in"
  | afterExpression => "unexpected token after expression"
  | endOfExpression => "unexpected end of expression"
  | unexpectedKeyword k => "unexpected " ++ k.spelling
  | unexpectedToken => "unexpected token"
  | unexpectedClose => "unexpected \x7d"
  | unclosedBlock => "unclosed block"
  | elseWithoutIf => "else without if"

/-- Why running a template fails. -/
inductive RuntimeCause where
  /-- A property of `null` is asked for. -/
  | propertyOfNull (key : String)
  /-- A function is used as a value. -/
  | onlyCalled (name : String)
  | notDefined (name : String)
  /-- A name is assigned to that no scope declares. -/
  | notDeclared (name : String)
  | notIterable (kind : String)
  /-- Something is called that is neither a function nor a method. -/
  | notFunction
  | notMethod (kind name : String)
  /-- A map with a key that is no text is given as data. -/
  | keyNotText
  deriving DecidableEq, Repr

/-- The message for a cause. -/
def RuntimeCause.message : RuntimeCause → String
  | propertyOfNull key => "cannot read property '" ++ key ++ "' of null"
  | onlyCalled name => name ++ " can only be called"
  | notDefined name => name ++ " is not defined"
  | notDeclared name => name ++ " is not declared"
  | notIterable kind => kind ++ " is not iterable"
  | notFunction => "expression is not a function"
  | notMethod kind name => kind ++ "." ++ name ++ " is not a function"
  | keyNotText => "unable to serialize data: key must be a string"

end Stencil.Script
