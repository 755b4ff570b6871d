import Stencil.Codegen.Grammar.Pattern
import Stencil.Codegen.Lexer

/-!
# Stencil.Codegen.Grammar.Expression

Expressions:

1. an atom is the smallest expression: a constant, a path, something in
   brackets, a block, a function without a name, or a jump;
2. a trailer is what follows an atom: a call, a member, an index, a question
   mark;
3. an operand is an atom with its trailers and with signs before it;
4. operators stand between operands, and those that bind tighter come first.
-/

namespace Stencil.Codegen.Grammar

/-! ## lists -/

/-- An expression of any form. -/
def anyExpression (rules : Rules) : Reader Unit := do
  let _ ← rules.expression true

/-- Arguments of a call. -/
def callArguments (rules : Rules) : Reader Unit := within .round (list (anyExpression rules))

/-- Expressions after the first, each with a comma before it. -/
def furtherExpressions (rules : Rules) : Reader Unit := do
  if !(← comes isEnd) then
    marks ","
    list (anyExpression rules)

/-- An expression in parentheses, or a tuple. -/
def tuple (rules : Rules) : Reader Unit :=
  within .round do
    if !(← comes isEnd) then
      anyExpression rules
      furtherExpressions rules

/-- An array, whose elements are given one by one or as one and its number. -/
def array (rules : Rules) : Reader Unit :=
  within .square do
    if !(← comes isEnd) then
      anyExpression rules
      if (← comes (startsMarks ";")) then
        take 1
        anyExpression rules
      else furtherExpressions rules

/-- The fields of a structure. The rest may be taken from another one. -/
def fieldValues (rules : Rules) : Reader Unit :=
  repeatedly do
    if (← comes isEnd) then return false
    if (← comes (startsMarks "..")) then
      take 2
      if !(← comes isEnd) then anyExpression rules
      return false
    attributes rules
    let named ← member
    if !named || (← comes (startsMarks ":")) then
      marks ":"
      anyExpression rules
    if (← comes isEnd) then return false
    marks ","
    return true

/-! ## blocks -/

/-- A condition with the alternatives that follow it. -/
def conditional (rules : Rules) : Reader Unit :=
  repeatedly do
    word "if"
    let _ ← rules.expression false
    block rules false
    if !(← comes (startsWord "else")) then return false
    take 1
    if (← comes (startsWord "if")) then return true
    block rules false
    return false

/-- A case of a distinction. A comma follows unless the case ends in a block or
is the last one. -/
def case (rules : Rules) : Reader Unit := do
  attributes rules
  let _ ← alternatives rules
  if (← comes (startsWord "if")) then
    take 1
    anyExpression rules
  marks "=>"
  let form ← rules.body
  if form == .block || (← comes isEnd) then optionalMarks "," else marks ","

/-- A distinction of cases. -/
def distinction (rules : Rules) : Reader Unit := do
  word "match"
  let _ ← rules.expression false
  within .curly do
    innerAttributes rules
    readWhile (!isEnd ·) (case rules)

/-- A loop or a block, which may have a label. -/
def loop (rules : Rules) : Reader Unit := do
  let ts ← ahead
  if startsWord "while" ts then
    take 1
    let _ ← rules.expression false
  else if startsWord "for" ts then
    take 1
    let _ ← alternatives rules
    word "in"
    let _ ← rules.expression false
  else optionalWord "loop"
  block rules true

/-- Whether a function without a name begins here. -/
def startsClosure (ts : List Token) : Bool :=
  let next := ts.drop 1
  startsMarks "|" ts || startsWordOf ["move", "static"] ts ||
    startsWord "for" ts && startsMarks "<" next &&
      (startsLifetime (ts.drop 2) || startsMarks ">" (ts.drop 2)) ||
    startsWord "const" ts && !startsOpening .curly next ||
    startsWord "async" ts && (startsMarks "|" next || startsWord "move" next)

/-- Whether an expression begins here that ends in a block and stands as a
statement alone. -/
def startsBlock (ts : List Token) : Bool :=
  !startsClosure ts &&
    (startsWordOf ["if", "while", "for", "loop", "match", "unsafe", "const"] ts ||
      startsWord "try" ts && startsOpening .curly (ts.drop 1) ||
      startsOpening .curly ts || startsLifetime ts)

/-- An expression that ends in a block and stands as a statement alone. -/
def blockExpression (rules : Rules) : Reader ExpressionForm := do
  let ts ← ahead
  if startsWord "if" ts then conditional rules
  else if startsWord "match" ts then distinction rules
  else if startsWordOf ["unsafe", "const"] ts then
    take 1
    block rules true
  else if startsWord "try" ts then
    take 1
    block rules false
  else
    if startsLifetime ts then
      take 2
      marks ":"
      guard (← comes fun ts => startsWordOf ["while", "for", "loop"] ts || startsOpening .curly ts)
    loop rules
  return .block

/-! ## functions without names -/

/-- A parameter: a pattern, and perhaps its type. -/
def closureParameter (rules : Rules) : Reader Unit := do
  attributes rules
  let _ ← rules.pattern
  if (← comes (startsMarks ":")) then
    take 1
    let _ ← rules.type true

/-- A function without a name. Its body is a block if the type of the result is
given. -/
def closure (rules : Rules) (fields : Bool) : Reader Unit := do
  readIf (startsWord "for") (binder rules)
  optionalWord "const"
  optionalWord "static"
  optionalWord "async"
  optionalWord "move"
  marks "|"
  separatedBy "," (startsMarks "|") (closureParameter rules)
  marks "|"
  if (← comes (startsMarks "->")) then
    take 2
    let _ ← rules.type true
    block rules false
  else
    let _ ← rules.expression fields

/-! ## jumps -/

/-- Whether an expression begins here. -/
def startsExpression (ts : List Token) : Bool :=
  let starts (mark : String) (others : List String) :=
    startsMarks mark ts && !others.any (startsMarks · ts)
  startsAnyWord ts && !startsWord "as" ts || startsGroup ts || startsConstant ts ||
    starts "!" ["!="] || starts "-" ["-=", "->"] || starts "*" ["*="] || starts "|" ["|="] ||
    starts "&" ["&="] || starts ".." [] || starts "<" ["<=", "<<="] || starts "::" [] ||
    startsLifetime ts || starts "#" []

/-- What leaves a loop, perhaps with a value. A loop with a label needs
parentheses to be the value. -/
def leaveLoop (rules : Rules) (fields : Bool) : Reader Unit := do
  word "break"
  if (← comes startsLifetime) then
    take 2
    guard !(← comes (startsMarks ":"))
  let ts ← ahead
  if startsExpression ts && (fields || !startsOpening .curly ts) then anyExpression rules

/-- A jump out of a function, perhaps with a value. -/
def leaveFunction (rules : Rules) : Reader Unit := do
  take 1
  readIf startsExpression (anyExpression rules)

/-! ## ranges -/

/-- Whether a range without an end stops here. -/
def isRangeStop (fields : Bool) (ts : List Token) : Bool :=
  isEnd ts || !fields && startsOpening .curly ts || startsWord "as" ts ||
    startsMarks "." ts && !startsMarks ".." ts ||
    [",", ";", "?", "=", "+", "/", "%", "^", ">", "<=", "!=", "-=", "*=", "&=", "|=",
      "<<="].any (startsMarks · ts)

/-- The points of a range and its end, which may be left out after two
points. -/
def rangeTail (rules : Rules) (fields : Bool) : Reader ExpressionForm := do
  let closed ← comes (startsMarks "..=")
  guard !(← comes (startsMarks "..."))
  marks (if closed then "..=" else "..")
  if !closed && isRangeStop fields (← ahead) then return .range false
  let _ ← rules.rightOperand fields .range
  return .range true

/-! ## atoms -/

/-- An expression that begins with a path. -/
def pathExpression (rules : Rules) (fields : Bool) : Reader ExpressionForm := do
  let form ← qualifiedPath rules true
  let ts ← ahead
  if !form.qualified && form.plain && startsMarks "!" ts && !startsMarks "!=" ts then
    take 1
    let curly ← comes (startsOpening .curly)
    group
    return .invocation curly
  else
    if fields && startsOpening .curly ts then within .curly (fieldValues rules)
    return .other

/-- Whether an expression that begins here begins with a path. -/
def startsPathExpression (ts : List Token) : Bool :=
  startsName ts || startsWordOf placeWords ts || startsMarks "::" ts || startsMarks "<" ts ||
    startsWord "try" ts && (startsMarks "!" (ts.drop 1) || startsMarks "::" (ts.drop 1))

/-- A pattern that a value may have, as a condition. -/
def patternCondition (rules : Rules) (fields : Bool) : Reader Unit := do
  word "let"
  let _ ← alternatives rules
  marks "="
  let form ← rules.operand fields
  let _ ← rules.operations fields .compare form

/-- A word, a number sign, a name and parentheses: something that the compiler
has built in. -/
def builtIn : Reader ExpressionForm := do
  take 2
  name
  guard (← comes (startsOpening .round))
  group
  return .asRead

/-- The smallest expressions. -/
def atom (rules : Rules) (fields : Bool) : Reader ExpressionForm := do
  let ts ← ahead
  let next := ts.drop 1
  let waits := startsWord "async" ts && (startsOpening .curly next ||
    startsWord "move" next && startsOpening .curly (ts.drop 2))
  if startsBlock ts then blockExpression rules
  else if startsWord "builtin" ts && startsMarks "#" next then builtIn
  else if !startsConstant ts && startsPathExpression ts then pathExpression rules fields
  else if startsMarks ".." ts then rangeTail rules fields
  else if startsWord "become" ts then
    take 1
    anyExpression rules
    return .asRead
  else
    if startsConstant ts then constant
    else if waits then
      take 1
      optionalWord "move"
      block rules false
    else if startsClosure ts then closure rules fields
    else if startsOpening .round ts then tuple rules
    else if startsOpening .square ts then array rules
    else if startsWord "break" ts then leaveLoop rules fields
    else if startsWord "continue" ts then
      take 1
      readIf startsLifetime (take 2)
    else if startsWordOf ["return", "yield"] ts then leaveFunction rules
    else if startsWord "let" ts then patternCondition rules fields
    else word "_"
    return .other

/-! ## trailers -/

/-- Whether a number has a fraction or an exponent. -/
def isFraction (text : String) : Bool :=
  ((afterFraction? text.toList).bind afterNumberSuffix?).isSome

/-- Fields by their places, with points between them. -/
def fieldTokens (ns : List Nat) : List Token :=
  ns.map fieldToken |>.intersperse (.mark '.' false)

/-- A member after a point, and the arguments of a call if it is a method. -/
def memberTrailer (rules : Rules) : Reader Unit := do
  if (← comes (startsWord "await")) then take 1
  else
    let named ← member
    let turbofish ← comes (startsMarks "::")
    if named && turbofish then
      let _ ← angledArguments rules
    if named && (turbofish || (← comes (startsOpening .round))) then callArguments rules

/-- What follows a point. Two places of fields with a point between them are
read as one number. -/
def pointTrailer (rules : Rules) : Reader Unit := do
  match (← ahead) with
  | .literal text :: _ =>
    if isNumber text && isFraction text then
      let parts := text.splitOn "."
      let ended := parts.getLast? == some ""
      match (if ended then parts.dropLast else parts).mapM fieldIndex? with
      | none => failure
      | some places =>
        let _ ← apart (take 1)
        write (fieldTokens places)
        if ended then
          write [.mark '.' false]
          memberTrailer rules
    else memberTrailer rules
  | _ => memberTrailer rules

/-- What follows an expression of a form. -/
def trailers (rules : Rules) (form : ExpressionForm) : Reader ExpressionForm :=
  iterate (fun form => do
    let ts ← ahead
    let isRange := form == .range true || form == .range false
    if startsOpening .round ts then
      callArguments rules
      return (.other, true)
    else if startsMarks "." ts && !startsMarks ".." ts && !isRange then
      take 1
      pointTrailer rules
      return (.other, true)
    else if startsOpening .square ts then
      within .square (anyExpression rules)
      return (.other, true)
    else if startsMarks "?" ts && !isRange then
      take 1
      return (.other, true)
    else return (form, false)) form

/-! ## operands -/

/-- What a reference may have before its operand. -/
def referenceMarks : Reader Unit := do
  let ts ← ahead
  if startsWord "raw" ts && startsWordOf ["mut", "const"] (ts.drop 1) then take 2
  else optionalWord "mut"

/-- An expression without operators between operands. -/
def operand (rules : Rules) (fields : Bool) : Reader ExpressionForm :=
  asReadIf (· == .asRead) do
    let noted ← comes (startsMarks "#")
    attributes rules
    let ts ← ahead
    if startsMarks "&" ts then
      take 1
      referenceMarks
      let _ ← rules.operand fields
      return .other
    else if ["*", "!", "-"].any (startsMarks · ts) then
      take 1
      let _ ← rules.operand fields
      return .other
    else
      let form ← trailers rules (← atom rules fields)
      guard !(noted && (form == .range true || form == .range false))
      return form

/-! ## operators -/

/-- The operators with two operands, a longer one before its beginning. -/
def operators : List (String × Precedence) :=
  [("+=", .assign), ("-=", .assign), ("*=", .assign), ("/=", .assign), ("%=", .assign),
    ("^=", .assign), ("&=", .assign), ("|=", .assign), ("<<=", .assign), (">>=", .assign),
    ("&&", .and), ("||", .or), ("<<", .shift), (">>", .shift), ("==", .compare),
    ("<=", .compare), ("!=", .compare), (">=", .compare), ("+", .sum), ("-", .sum),
    ("*", .product), ("/", .product), ("%", .product), ("^", .bitXor), ("&", .bitAnd),
    ("|", .bitOr), ("<", .compare), (">", .compare)]

/-- The operator that comes next. -/
def operatorAhead? (ts : List Token) : Option (String × Precedence) :=
  operators.find? fun (text, _) => startsMarks text ts

/-- Whether a plain assignment comes next. -/
def startsAssignment (ts : List Token) : Bool := startsMarks "=" ts && !startsMarks "=>" ts

/-- How tight what comes next binds. -/
def precedenceAhead (ts : List Token) : Precedence :=
  match operatorAhead? ts with
  | some (_, p) => p
  | none =>
    if startsAssignment ts then .assign
    else if startsMarks ".." ts then .range
    else if startsWord "as" ts then .cast
    else .jump

/-- Whether a trailer comes next, which a conversion cannot have. -/
def startsTrailer (ts : List Token) : Bool :=
  startsMarks "." ts && !startsMarks ".." ts || startsMarks "?" ts ||
    startsOpening .square ts || startsOpening .round ts

/-- The operators that follow an expression of a form, as far as they bind at
least as tight as `base`, and what they apply to. Comparisons do not follow each
other. -/
def operations (rules : Rules) (fields : Bool) (base : Precedence) (form : ExpressionForm) :
    Reader ExpressionForm :=
  iterate (fun form => do
    let ts ← ahead
    let isRange := form == .range true || form == .range false
    if form == .range true then return (form, false)
    match operatorAhead? ts with
    | some (text, p) =>
      if p.rank < base.rank || p == .assign && isRange then return (form, false)
      guard !(p == .compare && form == .comparison)
      take text.length
      let _ ← rules.rightOperand fields p
      return (if p == .compare then .comparison else .other, true)
    | none =>
      if base.rank ≤ Precedence.assign.rank && startsAssignment ts && !isRange then
        take 1
        let _ ← rules.rightOperand fields .assign
        return (.other, true)
      else if base.rank ≤ Precedence.range.rank && startsMarks ".." ts then
        return (← rangeTail rules fields, true)
      else if base.rank ≤ Precedence.cast.rank && startsWord "as" ts then
        take 1
        let _ ← rules.type false
        guard !(← comes startsTrailer)
        return (.other, true)
      else return (form, false)) form

/-- What stands to the right of an operator: an operand and what binds tighter
than the operator. Assignments group to the right. -/
def rightOperand (rules : Rules) (fields : Bool) (p : Precedence) : Reader ExpressionForm := do
  let first ← operand rules fields
  iterate (fun form => do
    let before ← ahead
    let next := precedenceAhead before
    if p.rank < next.rank || next == p && p == .assign then
      let form ← rules.operations fields next form
      return (form, (← ahead).length < before.length)
    else return (form, false)) first

/-! ## expressions -/

/-- An expression. -/
def expression (rules : Rules) (fields : Bool) : Reader ExpressionForm := do
  let form ← operand rules fields
  operations rules fields .jump form

/-- An expression that ends early if it begins with a block: only a member or a
question mark goes on with the block then. -/
def body (rules : Rules) : Reader ExpressionForm := do
  attributes rules
  let form ← if (← comes startsBlock) then blockExpression rules else operand rules true
  if form == .block then
    let ts ← ahead
    if startsMarks "." ts && !startsMarks ".." ts || startsMarks "?" ts then
      operations rules true .jump (← trailers rules form)
    else return form
  else operations rules true .jump form

end Stencil.Codegen.Grammar
