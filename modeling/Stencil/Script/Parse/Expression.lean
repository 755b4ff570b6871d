import Stencil.Script.Parse.Basic
import Stencil.Script.Tree
import Stencil.Script.Value

/-!
# Stencil.Script.Parse.Expression

The parser of expressions. Of the binary operators those of a higher level bind
more tightly, and all of them associate to the left: `binary min` reads the
longest expression whose operators are of levels above `min`. A conditional
binds least and associates to the right, a sign before an operand more tightly
than any binary operator, and a property, an index or a call most tightly.

Every function of the recursion takes a token before it calls itself again, or
hands all tokens to one of a lower rank.
-/

namespace Stencil.Script.Parse

/-- The binary operator that a token is, with its level. -/
def binaryOp? : Tok → Option (BinaryOp × Nat)
  | .punct .or => some (.or, 1)
  | .punct .and => some (.and, 2)
  | .punct .strictEq | .punct .looseEq => some (.eq, 3)
  | .punct .strictNe | .punct .looseNe => some (.ne, 3)
  | .punct .lt => some (.lt, 4)
  | .punct .le => some (.le, 4)
  | .punct .gt => some (.gt, 4)
  | .punct .ge => some (.ge, 4)
  | .punct .plus => some (.add, 5)
  | .punct .minus => some (.sub, 5)
  | .punct .star => some (.mul, 6)
  | .punct .slash => some (.div, 6)
  | .punct .percent => some (.rem, 6)
  | _ => none

/-- The sign that a token is before an operand. -/
def unaryOp? : Tok → Option UnaryOp
  | .punct .bang => some .not
  | .punct .minus => some .neg
  | .punct .plus => some .plus
  | _ => none

/-- The name of an entry of an object that a token is. -/
def entryKey? : Tok → Option String
  | .ident name => some name
  | .string s => some s
  | .number x => some (numberText x)
  | _ => none

/-- The constant that a keyword is. -/
def constant? : Keyword → Option Json
  | .trueWord => some (.bool true)
  | .falseWord => some (.bool false)
  | .nullWord | .undefinedWord => some .null
  | _ => none

mutual

/-- An expression. -/
def expression (ts : List Token) : Parsed Expr ts := do
  let (condition, ⟨r, h⟩) ← binary 0 ts
  match eat? .question r with
  | none => return (condition, ⟨r, h⟩)
  | some ⟨r₁, h₁⟩ =>
    let (yes, ⟨r₂, h₂⟩) ← expression r₁
    let ⟨r₃, h₃⟩ ← expect .colon r₂
    let (no, ⟨r₄, h₄⟩) ← expression r₃
    return (.conditional condition yes no,
      .andThen ⟨r, h⟩ (.andThen ⟨r₁, h₁⟩ (.andThen ⟨r₂, h₂⟩ (.andThen ⟨r₃, h₃⟩ ⟨r₄, h₄⟩))))
termination_by ts.length * 8 + 5

/-- An expression whose binary operators outside brackets are of levels above
`min`. -/
def binary (min : Nat) (ts : List Token) : Parsed Expr ts := do
  let (left, ⟨r, h⟩) ← unary ts
  let (e, ⟨r₁, h₁⟩) ← binaryRest min left r
  return (e, .andPerhaps ⟨r, h⟩ ⟨r₁, h₁⟩)
termination_by ts.length * 8 + 4

/-- Goes on with an expression that begins with the operand `left`. -/
def binaryRest (min : Nat) (left : Expr) (ts : List Token) :
    Except ParseError (Expr × LeftOrAll ts) :=
  match ts with
  | [] => .ok (left, .all [])
  | t :: r =>
    match binaryOp? t.tok with
    | none => .ok (left, .all (t :: r))
    | some (op, level) =>
      if level ≤ min then .ok (left, .all (t :: r))
      else do
        let (right, ⟨r₁, h₁⟩) ← binary level r
        let (e, ⟨r₂, h₂⟩) ← binaryRest min (.binary op left right) r₁
        return (e, ((Left.tail t r).andThen (.andPerhaps ⟨r₁, h₁⟩ ⟨r₂, h₂⟩)).orAll)
termination_by ts.length * 8
decreasing_by all_goals (simp only [List.length_cons]; omega)

/-- An operand, perhaps with signs before it. -/
def unary (ts : List Token) : Parsed Expr ts :=
  match ts with
  | [] => postfixed []
  | t :: r =>
    match unaryOp? t.tok with
    | none => postfixed (t :: r)
    | some op => do
      let (operand, ⟨r₁, h₁⟩) ← unary r
      return (.unary op operand, (Left.tail t r).andThen ⟨r₁, h₁⟩)
termination_by ts.length * 8 + 3
decreasing_by all_goals (simp only [List.length_cons, List.length_nil]; omega)

/-- A primary expression with properties, indices and calls after it. -/
def postfixed (ts : List Token) : Parsed Expr ts := do
  let (e, ⟨r, h⟩) ← primary ts
  let (e, ⟨r₁, h₁⟩) ← postfixRest e r
  return (e, .andPerhaps ⟨r, h⟩ ⟨r₁, h₁⟩)
termination_by ts.length * 8 + 2

/-- Goes on with the expression `e`. -/
def postfixRest (e : Expr) (ts : List Token) : Except ParseError (Expr × LeftOrAll ts) :=
  match ts with
  | ⟨.punct .dot, _⟩ :: ⟨.ident name, _⟩ :: r => do
    let (e, ⟨r₁, h₁⟩) ← postfixRest (.member e name) r
    return (e, ((Left.tail _ _).andThen ((Left.tail _ r).andPerhaps ⟨r₁, h₁⟩)).orAll)
  | ⟨.punct .dot, _⟩ :: r => .error ⟨.expectedProperty, r.drop 1⟩
  | ⟨.punct .lbracket, _⟩ :: r => do
    let (key, ⟨r₁, h₁⟩) ← expression r
    let ⟨r₂, h₂⟩ ← expect .rbracket r₁
    let (e, ⟨r₃, h₃⟩) ← postfixRest (.index e key) r₂
    return (e, ((Left.tail _ r).andThen
      (.andThen ⟨r₁, h₁⟩ (.andPerhaps ⟨r₂, h₂⟩ ⟨r₃, h₃⟩))).orAll)
  | ⟨.punct .lparen, _⟩ :: r => do
    let (args, ⟨r₁, h₁⟩) ← items .rparen r
    let (e, ⟨r₂, h₂⟩) ← postfixRest (.call e args) r₁
    return (e, ((Left.tail _ r).andThen (.andPerhaps ⟨r₁, h₁⟩ ⟨r₂, h₂⟩)).orAll)
  | ts => .ok (e, .all ts)
termination_by ts.length * 8
decreasing_by all_goals (simp only [List.length_cons]; omega)

/-- Expressions with commas between them up to the mark `close`; a comma may
stand after the last one. -/
def items (close : Punct) (ts : List Token) : Parsed (List Expr) ts :=
  match eat? close ts with
  | some r => .ok ([], r)
  | none => do
    let (e, ⟨r, h⟩) ← expression ts
    match eat? .comma r with
    | none =>
      let ⟨r₁, h₁⟩ ← expect close r
      return ([e], .andThen ⟨r, h⟩ ⟨r₁, h₁⟩)
    | some ⟨r₁, h₁⟩ =>
      let (es, ⟨r₂, h₂⟩) ← items close r₁
      return (e :: es, .andThen ⟨r, h⟩ (.andThen ⟨r₁, h₁⟩ ⟨r₂, h₂⟩))
termination_by ts.length * 8 + 6

/-- Entries of an object with commas between them up to the closing brace; a
comma may stand after the last one. -/
def entries (ts : List Token) : Parsed (List (String × Expr)) ts :=
  match eat? .rbrace ts with
  | some r => .ok ([], r)
  | none => do
    let (entry, ⟨r, h⟩) ← entry ts
    match eat? .comma r with
    | none =>
      let ⟨r₁, h₁⟩ ← expect .rbrace r
      return ([entry], .andThen ⟨r, h⟩ ⟨r₁, h₁⟩)
    | some ⟨r₁, h₁⟩ =>
      let (rest, ⟨r₂, h₂⟩) ← entries r₁
      return (entry :: rest, .andThen ⟨r, h⟩ (.andThen ⟨r₁, h₁⟩ ⟨r₂, h₂⟩))
termination_by ts.length * 8 + 1

/-- An entry of an object. Without a value it has that of the variable of its
name. -/
def entry (ts : List Token) : Parsed (String × Expr) ts :=
  match ts with
  | [] => .error ⟨.expectedProperty, []⟩
  | t :: r =>
    match entryKey? t.tok with
    | none => .error ⟨.expectedProperty, t :: r⟩
    | some key =>
      match eat? .colon r with
      | none => .ok ((key, .ident key), .tail t r)
      | some ⟨r₁, h₁⟩ => do
        let (value, ⟨r₂, h₂⟩) ← expression r₁
        return ((key, value), (Left.tail t r).andThen (.andThen ⟨r₁, h₁⟩ ⟨r₂, h₂⟩))
termination_by ts.length * 8
decreasing_by all_goals (simp only [List.length_cons]; omega)

/-- A literal, a variable, an array, an object, or an expression in
parentheses. -/
def primary (ts : List Token) : Parsed Expr ts :=
  match ts with
  | [] => .error ⟨.endOfExpression, []⟩
  | ⟨.number x, _⟩ :: r => .ok (.literal (ofBinary64 x), .tail _ r)
  | ⟨.string s, _⟩ :: r => .ok (.literal (.string s), .tail _ r)
  | ⟨.ident name, offset⟩ :: r =>
    match Keyword.ofName? name with
    | none => .ok (.ident name, .tail _ r)
    | some k =>
      match constant? k with
      | some value => .ok (.literal value, .tail _ r)
      | none => .error ⟨.unexpectedKeyword k, ⟨.ident name, offset⟩ :: r⟩
  | ⟨.punct .lparen, _⟩ :: r => do
    let (e, ⟨r₁, h₁⟩) ← expression r
    let ⟨r₂, h₂⟩ ← expect .rparen r₁
    return (e, (Left.tail _ r).andThen (.andThen ⟨r₁, h₁⟩ ⟨r₂, h₂⟩))
  | ⟨.punct .lbracket, _⟩ :: r => do
    let (es, ⟨r₁, h₁⟩) ← items .rbracket r
    return (.array es, (Left.tail _ r).andThen ⟨r₁, h₁⟩)
  | ⟨.punct .lbrace, _⟩ :: r => do
    let (es, ⟨r₁, h₁⟩) ← entries r
    return (.object es, (Left.tail _ r).andThen ⟨r₁, h₁⟩)
  | ts => .error ⟨.unexpectedToken, ts⟩
termination_by ts.length * 8 + 1
decreasing_by all_goals (simp only [List.length_cons]; omega)

end

/-- Reads all tokens as one expression. -/
def expressionOnly (ts : List Token) : Except ParseError Expr := do
  let (e, ⟨rest, _⟩) ← expression ts
  if rest.isEmpty then return e else .error ⟨.afterExpression, rest⟩

end Stencil.Script.Parse
