import Stencil.Script.Parse.Expression

/-!
# Stencil.Script.Parse.Statement

The parser of statements. The first token of a statement decides which one it
is, and where this is a name, the token after it: an assignment sign makes it
an assignment. A semicolon ends a declaration, an assignment or an expression,
but may be left out. An `else` belongs to the nearest open `if`.
-/

namespace Stencil.Script.Parse

/-- The assignment sign that a token is. -/
def assignOp? : Tok → Option AssignOp
  | .punct .assign => some .set
  | .punct .plusAssign => some .add
  | .punct .minusAssign => some .sub
  | _ => none

/-- The assignment sign at the front, if there is one. -/
def nextAssignOp? (ts : List Token) : Option AssignOp :=
  match ts with
  | t :: _ => assignOp? t.tok
  | [] => none

/-- Takes a keyword if it stands at the front. -/
def eatKeyword? (k : Keyword) (ts : List Token) : Option (Left ts) :=
  match ts with
  | ⟨.ident name, _⟩ :: rest =>
    if Keyword.ofName? name = some k then some (.tail _ rest) else none
  | _ => none

/-- What is left after a keyword that declares variables, if one stands at the
front. -/
def skipDeclarator (ts : List Token) : LeftOrAll ts :=
  match ts with
  | ⟨.ident name, offset⟩ :: rest =>
    if (Keyword.ofName? name).any Keyword.declares then (Left.tail _ rest).orAll
    else .all (⟨.ident name, offset⟩ :: rest)
  | ts => .all ts

/-- The two ways to loop over a value. -/
inductive LoopKind where
  /-- Over its items. -/
  | of
  /-- Over its keys. -/
  | keys
  deriving DecidableEq, Repr

/-- The loop of a kind. -/
def LoopKind.loop : LoopKind → String → Expr → Stmt → Stmt
  | .of => .forOf
  | .keys => .forIn

/-- Takes the word that says what a loop runs over. The word `of` has this
meaning here only and is a name elsewhere. -/
def loopKind (ts : List Token) : Parsed LoopKind ts :=
  match ts with
  | ⟨.ident name, offset⟩ :: rest =>
    if name = "of" then .ok (.of, .tail _ rest)
    else if name = "in" then .ok (.keys, .tail _ rest)
    else .error ⟨.expectedOfOrIn, ⟨.ident name, offset⟩ :: rest⟩
  | ts => .error ⟨.expectedOfOrIn, ts⟩

/-! ## statements without statements inside -/

/-- A declaration after its keyword. -/
def declaration (ts : List Token) : Parsed Stmt ts := do
  let (x, r) ← name ts
  match eat? .assign r.1 with
  | none => return (.declare x none, r.andPerhaps (skipSemicolon r.1))
  | some r₁ =>
    let (e, r₂) ← expression r₁.1
    return (.declare x (some e), r.andThen (r₁.andThen (r₂.andPerhaps (skipSemicolon r₂.1))))

/-- An assignment whose sign is `op`. -/
def assignment (op : AssignOp) (ts : List Token) : Parsed Stmt ts := do
  let (x, r) ← name ts
  let sign := LeftOrAll.drop 1 r.1
  let (e, r₁) ← expression sign.1
  return (.assign x op e, (r.andPerhaps sign).andThen (r₁.andPerhaps (skipSemicolon r₁.1)))

/-- An expression as a statement. -/
def expressionStatement (ts : List Token) : Parsed Stmt ts := do
  let (e, r) ← expression ts
  return (.expr e, r.andPerhaps (skipSemicolon r.1))

/-- The expression in the parentheses after `if`. -/
def condition (ts : List Token) : Parsed Expr ts := do
  let r ← expect .lparen ts
  let (e, r₁) ← expression r.1
  let r₂ ← expect .rparen r₁.1
  return (e, r.andThen (r₁.andThen r₂))

/-- What stands in the parentheses after `for`: the variable, the kind of the
loop and the value it runs over. -/
def loopHead (ts : List Token) : Parsed (String × LoopKind × Expr) ts := do
  let r ← expect .lparen ts
  let r₁ := skipDeclarator r.1
  let (x, r₂) ← name r₁.1
  let (kind, r₃) ← loopKind r₂.1
  let (e, r₄) ← expression r₃.1
  let r₅ ← expect .rparen r₄.1
  return ((x, kind, e), (r.andPerhaps r₁).andThen (r₂.andThen (r₃.andThen (r₄.andThen r₅))))

/-! ## statements -/

mutual

/-- A statement. -/
def statement (ts : List Token) : Parsed Stmt ts :=
  match ts with
  | [] => expressionStatement []
  | ⟨.emit index, _⟩ :: r => .ok (.emit index, .tail _ r)
  | ⟨.punct .lbrace, _⟩ :: r => do
    let (body, ⟨r₁, h₁⟩) ← block r
    return (.block body, (Left.tail _ r).andThen ⟨r₁, h₁⟩)
  | ⟨.punct .semicolon, _⟩ :: r => .ok (.empty, .tail _ r)
  | ⟨.punct .rbrace, offset⟩ :: r =>
    .error ⟨.unexpectedClose, ⟨.punct .rbrace, offset⟩ :: r⟩
  | ⟨.ident word, offset⟩ :: r =>
    match Keyword.ofName? word with
    | some .ifWord => do
      let (s, ⟨r₁, h₁⟩) ← branch r
      return (s, (Left.tail _ r).andThen ⟨r₁, h₁⟩)
    | some .forWord => do
      let ((x, kind, e), ⟨r₁, h₁⟩) ← loopHead r
      let (body, ⟨r₂, h₂⟩) ← statement r₁
      return (kind.loop x e body, (Left.tail _ r).andThen (.andThen ⟨r₁, h₁⟩ ⟨r₂, h₂⟩))
    | some .elseWord => .error ⟨.elseWithoutIf, ⟨.ident word, offset⟩ :: r⟩
    | some .letWord | some .constWord | some .varWord => do
      let (s, ⟨r₁, h₁⟩) ← declaration r
      return (s, (Left.tail _ r).andThen ⟨r₁, h₁⟩)
    | _ =>
      match nextAssignOp? r with
      | some op => assignment op (⟨.ident word, offset⟩ :: r)
      | none => expressionStatement (⟨.ident word, offset⟩ :: r)
  | ts => expressionStatement ts
termination_by ts.length * 2
decreasing_by all_goals (simp only [List.length_cons]; omega)

/-- The statements of a block up to and with its closing brace. -/
def block (ts : List Token) : Parsed (List Stmt) ts :=
  match eat? .rbrace ts with
  | some r => .ok ([], r)
  | none =>
    if ts.isEmpty then .error ⟨.unclosedBlock, ts⟩
    else do
      let (s, ⟨r, h⟩) ← statement ts
      let (rest, ⟨r₁, h₁⟩) ← block r
      return (s :: rest, .andThen ⟨r, h⟩ ⟨r₁, h₁⟩)
termination_by ts.length * 2 + 1

/-- A conditional statement after its `if`. -/
def branch (ts : List Token) : Parsed Stmt ts := do
  let (e, ⟨r, h⟩) ← condition ts
  let (yes, ⟨r₁, h₁⟩) ← statement r
  match eatKeyword? .elseWord r₁ with
  | none => return (.branch e yes none, .andThen ⟨r, h⟩ ⟨r₁, h₁⟩)
  | some ⟨r₂, h₂⟩ =>
    let (no, ⟨r₃, h₃⟩) ← statement r₂
    return (.branch e yes (some no),
      .andThen ⟨r, h⟩ (.andThen ⟨r₁, h₁⟩ (.andThen ⟨r₂, h₂⟩ ⟨r₃, h₃⟩)))
termination_by ts.length * 2 + 1

end

/-- Reads all tokens as statements. -/
def statements (ts : List Token) : Except ParseError (List Stmt) :=
  if ts.isEmpty then .ok []
  else do
    let (s, ⟨r, _h⟩) ← statement ts
    let rest ← statements r
    return s :: rest
termination_by ts.length

end Stencil.Script.Parse
