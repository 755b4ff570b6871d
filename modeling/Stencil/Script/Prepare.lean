import Stencil.Script.Lexer
import Stencil.Script.Parse.Statement
import Stencil.Template.Program

/-!
# Stencil.Script.Prepare

Making a script of a template. The code of all nodes is read as one list of
tokens, with a token `emit` in the place of every text and of every value, so
that a control structure may begin in one marker and end in another. Offsets
count from the beginning of the texts of all nodes put together. The expression
of a value is read by itself.
-/

namespace Stencil.Script

open Parse

/-- The tree of the expression of a value. -/
def parseValue (expr : String) : Except Error Expr := do
  let ts ← tokens 0 expr
  match expressionOnly ts with
  | .ok tree => return tree
  | .error e => .error (e.toError expr)

/-- The tokens and the outputs of nodes. The text of the first node has offset
`base`, and its output, if it has one, the number `index`. -/
def collect (base index : Nat) : Program → Except Error (List Token × List Output)
  | [] => .ok ([], [])
  | node :: rest => do
    let next := base + Text.octets node.source.toList
    match node with
    | .code text =>
      let ts ← tokens base text
      let (more, outputs) ← collect next index rest
      return (ts ++ more, outputs)
    | .literal text =>
      let (more, outputs) ← collect next (index + 1) rest
      return (⟨.emit index, base⟩ :: more, .text text :: outputs)
    | .value expr escape trim =>
      let tree ← parseValue expr
      let (more, outputs) ← collect next (index + 1) rest
      return (⟨.emit index, base⟩ :: more, .value tree escape trim :: outputs)

/-- The texts of all nodes put together. -/
def sourceOf (program : Program) : String := String.join (program.map Node.source)

/-- The script that a template is. -/
def ofProgram (program : Program) : Except Error Tree := do
  let (ts, outputs) ← collect 0 0 program
  match statements ts with
  | .ok body => return ⟨body, outputs⟩
  | .error e => .error (e.toError (sourceOf program))

end Stencil.Script
