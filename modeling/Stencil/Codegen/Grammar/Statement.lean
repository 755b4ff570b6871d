import Stencil.Codegen.Grammar.Item

/-!
# Stencil.Codegen.Grammar.Statement

Statements of a block: declarations of variables, items, expressions, and things
in brackets that stand for statements. Semicolons stand between them, and after
an expression that ends in a block there need not be one.
-/

namespace Stencil.Codegen.Grammar

/-- Whether an item begins here by its first words. -/
def startsItem (ts : List Token) : Bool :=
  let next := ts.drop 1
  let third := ts.drop 2
  startsWordOf ["pub", "extern", "use", "fn", "mod", "type", "struct", "enum", "trait", "impl",
      "macro"] ts ||
    startsWord "crate" ts && !startsMarks "::" next ||
    startsWord "static" ts && (startsWord "mut" next || startsName next) ||
    startsWord "const" ts && !(startsOpening .curly next ||
      startsWordOf ["static", "move"] next || startsMarks "|" next ||
      startsWord "async" next && !startsWordOf ["unsafe", "extern", "fn"] third) ||
    startsWord "unsafe" ts && !startsOpening .curly next ||
    startsWord "async" ts && startsWordOf ["unsafe", "extern", "fn"] next ||
    startsWord "union" ts && startsName next ||
    startsWord "auto" ts && startsWord "trait" next ||
    startsWord "default" ts && startsWordOf ["unsafe", "impl"] next

/-- The tokens that follow a path and an exclamation mark, if these come
next. -/
def afterInvoked? (ts : List Token) : Option (List Token) :=
  match afterPlainPath? ts with
  | some rest => if startsMarks "!" rest then some (rest.drop 1) else none
  | none => none

/-- Whether something in curly brackets begins here that is a statement alone. -/
def startsInvocation (ts : List Token) : Bool :=
  match afterInvoked? ts with
  | some rest =>
    let next := afterFirst rest
    startsOpening .curly rest &&
      !(startsMarks "." next && !startsMarks ".." next || startsMarks "?" next)
  | none => false

/-- Whether an item begins here that is declared by something in brackets. -/
def startsInvokedItem (ts : List Token) : Bool :=
  match afterInvoked? ts with
  | some rest => startsName rest || startsWord "try" rest
  | none => false

/-- The declaration of a variable. If its value does not end in a curly bracket,
a block may follow for the values that the pattern does not have. -/
def declaration (rules : Rules) : Reader Unit := do
  word "let"
  let _ ← rules.pattern
  if (← comes (startsMarks ":")) then
    take 1
    let _ ← rules.type true
  if (← comes (startsMarks "=")) then
    take 1
    anyExpression rules
    if (← get).written.head? != some (.closing .curly) && (← comes (startsWord "else")) then
      take 1
      block rules false
  marks ";"

/-- What a statement is. -/
inductive StatementForm where
  /-- An expression that another statement cannot follow. -/
  | value
  /-- An item that is written as it was read. -/
  | asRead
  | other
  deriving DecidableEq, Repr

/-- A statement. -/
def statement (rules : Rules) : Reader StatementForm :=
  asReadIf (· == .asRead) do
    attributes rules
    let ts ← ahead
    if !startsInvokedItem ts && startsInvocation ts then
      plainPath
      take 1
      group
      optionalMarks ";"
      return .other
    else if startsWord "let" ts then
      declaration rules
      return .other
    else if startsInvokedItem ts || startsItem ts then
      return if (← item rules) then .asRead else .other
    else
      let form ← body rules
      if (← comes (startsMarks ";")) then
        take 1
        return .other
      else return if form == .block || form == .invocation true then .other else .value

/-- The statements of a block. -/
def statements (rules : Rules) : Reader Unit :=
  repeatedly do
    readWhile (startsMarks ";") (take 1)
    if (← comes isEnd) then return false
    let form ← statement rules
    if (← comes isEnd) then return false
    guard (form != .value)
    return true

end Stencil.Codegen.Grammar
