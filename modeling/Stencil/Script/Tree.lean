import Stencil.Json.Basic
import Stencil.Template.Segment

/-!
# Stencil.Script.Tree

Syntax trees of the script language, and what its `emit` statements write.
-/

namespace Stencil.Script

/-- A sign before an operand. -/
inductive UnaryOp where
  | not | neg | plus
  deriving DecidableEq, Repr

/-- An operator between two operands. -/
inductive BinaryOp where
  | add | sub | mul | div | rem
  | eq | ne | lt | le | gt | ge
  | and | or
  deriving DecidableEq, Repr

/-- An expression. -/
inductive Expr where
  | literal (value : Json)
  | ident (name : String)
  | array (items : List Expr)
  | object (entries : List (String × Expr))
  /-- The property of a fixed name: `target.name`. -/
  | member (target : Expr) (name : String)
  /-- The property of a computed name: `target[key]`. -/
  | index (target key : Expr)
  | call (callee : Expr) (args : List Expr)
  | unary (op : UnaryOp) (operand : Expr)
  | binary (op : BinaryOp) (left right : Expr)
  | conditional (condition yes no : Expr)

/-- A sign of assignment. -/
inductive AssignOp where
  | set | add | sub
  deriving DecidableEq, Repr

/-- A statement. -/
inductive Stmt where
  /-- Writes the output of the given number. -/
  | emit (index : Nat)
  | expr (e : Expr)
  | declare (name : String) (init : Option Expr)
  | assign (name : String) (op : AssignOp) (e : Expr)
  | branch (condition : Expr) (yes : Stmt) (no : Option Stmt)
  /-- Runs the body for every item of a value. -/
  | forOf (name : String) (e : Expr) (body : Stmt)
  /-- Runs the body for every key of a value. -/
  | forIn (name : String) (e : Expr) (body : Stmt)
  | block (body : List Stmt)
  | empty

/-- What an `emit` statement writes. -/
inductive Output where
  | text (s : String)
  | value (e : Expr) (escape : Bool) (trim : Trim)

/-- A template ready to run: the statements made of its code, and its texts and
values in source order. -/
structure Tree where
  body : List Stmt
  outputs : List Output

end Stencil.Script
