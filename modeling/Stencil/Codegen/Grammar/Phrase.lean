import Stencil.Codegen.Grammar.Statement
import Stencil.Codegen.Grammar.TypeRule

/-!
# Stencil.Codegen.Grammar.Phrase

The grammar as a whole. The rules of a level refer back to those of the level
below. A rule does so only after it took a token, so a level above the number of
tokens is never left, and reads the same as all higher ones.
-/

namespace Stencil.Codegen.Grammar

/-- The rules whose references go to `below`. -/
def Rules.above (below : Rules) : Rules where
  type := Grammar.type below
  bound := Grammar.bound below
  pattern := Grammar.pattern below
  expression := Grammar.expression below
  operand := Grammar.operand below
  rightOperand := Grammar.rightOperand below
  operations := Grammar.operations below
  body := Grammar.body below
  statements := Grammar.statements below
  item := Grammar.attributedItem below

/-- The rules for phrases whose nesting is less than a number. -/
def Rules.level : Nat → Rules
  | 0 => .none
  | n + 1 => (level n).above

/-- A type that was read. -/
structure TypePhrase where
  /-- The tokens that write it. -/
  tokens : List Token
  /-- The tokens that follow. -/
  rest : List Token
  /-- Whether nothing was left over in any brackets. -/
  whole : Bool

/-- Reads the type at the front of some tokens. -/
def type? (ts : List Token) : Option TypePhrase :=
  (((Rules.level (ts.length + 1)).type true).run ⟨ts, [], true⟩).map fun (_, after) =>
    ⟨after.written.reverse, after.ahead, after.whole⟩

end Stencil.Codegen.Grammar
