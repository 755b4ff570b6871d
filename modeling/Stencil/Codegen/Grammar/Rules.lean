import Stencil.Codegen.Grammar.Cursor

/-!
# Stencil.Codegen.Grammar.Rules

The rules of the grammar that refer back to each other, as values that the
definitions of the rules are given. So no definition is recursive: the grammar
is tied together in `Stencil.Codegen.Grammar.Phrase`, where the depth of nesting
bounds it.

A rule asks another one of these only after it took a token itself.
-/

namespace Stencil.Codegen.Grammar

/-- What a type that was read is, as far as it matters for what may follow. -/
inductive TypeForm where
  /-- A path of names; `single` says that it is one name, perhaps with
  arguments. -/
  | path (single : Bool)
  /-- A single bound; `bracketed` says that it is written in brackets. -/
  | bound (bracketed : Bool)
  | other
  deriving DecidableEq, Repr

/-- What a bound is. -/
inductive BoundForm where
  | trait
  | lifetime
  /-- A list of what a type holds on to. -/
  | captures
  /-- A trait that has to be there when constants are computed. -/
  | constant
  deriving DecidableEq, Repr

/-- What an expression is. -/
inductive ExpressionForm where
  /-- A range; `ended` says that its end is given. -/
  | range (ended : Bool)
  | comparison
  /-- An expression that ends in a block and stands as a statement alone. -/
  | block
  /-- Something in brackets that stands for an expression; `curly` says that the
  brackets are curly. -/
  | invocation (curly : Bool)
  /-- An expression that is written as it was read. -/
  | asRead
  | other
  deriving DecidableEq, Repr

/-- What a pattern is. -/
inductive PatternForm where
  /-- A range without a beginning or without an end. -/
  | openRange
  /-- Two points that stand for the rest. -/
  | rest
  | other
  deriving DecidableEq, Repr

/-- How tight operators bind, the loosest first. -/
inductive Precedence where
  | jump | assign | range | or | and | condition | compare
  | bitOr | bitXor | bitAnd | shift | sum | product | cast
  deriving DecidableEq, Repr

/-- The place of a precedence in their order. -/
def Precedence.rank (p : Precedence) : Nat := p.ctorIdx

/-- The rules that others refer back to. -/
structure Rules where
  /-- A type. It may be a list of bounds if `many` holds. -/
  type : (many : Bool) → Reader TypeForm
  /-- A bound. The flags say whether it may be a list of what a type holds on
  to, and whether it may be for constants. -/
  bound : (captures constants : Bool) → Reader BoundForm
  /-- A pattern without alternatives. -/
  pattern : Reader PatternForm
  /-- An expression. It may begin with a structure's fields in curly brackets if
  `fields` holds, and so in the next four. -/
  expression : (fields : Bool) → Reader ExpressionForm
  /-- An expression without operators between operands. -/
  operand : (fields : Bool) → Reader ExpressionForm
  /-- What stands to the right of an operator. -/
  rightOperand : (fields : Bool) → Precedence → Reader ExpressionForm
  /-- The operators that follow an expression, and what they apply to. -/
  operations : (fields : Bool) → Precedence → ExpressionForm → Reader ExpressionForm
  /-- An expression that ends early if it begins with a block, as statements
  do. -/
  body : Reader ExpressionForm
  /-- The statements of a block. -/
  statements : Reader Unit
  /-- An item with its attributes. -/
  item : Reader Unit

/-- The rules by which nothing can be read. -/
def Rules.none : Rules where
  type _ := failure
  bound _ _ := failure
  pattern := failure
  expression _ := failure
  operand _ := failure
  rightOperand _ _ := failure
  operations _ _ _ := failure
  body := failure
  statements := failure
  item := failure

end Stencil.Codegen.Grammar
