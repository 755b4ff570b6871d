import Stencil.Script.Eval
import Stencil.Script.Prepare

/-!
# Stencil.Script.Run

Running statements. A statement takes the variables and the text written so far
to new ones. Branches, loop bodies and blocks run in a scope of their own, which
is gone afterwards; what a loop runs over is decided before its first turn.
-/

namespace Stencil.Script

/-- What statements change: the variables and the text written so far. -/
structure Frame where
  scopes : Scopes
  text : String

/-- A value trimmed as a marker asks. -/
def applyTrim : Trim → String → String
  | .none, s => s
  | .lineEndings, s => Text.trimLineEndings s
  | .blanks, s => Text.trimBlanks s

/-- The text that a value is written as. -/
def valueText (escape : Bool) (trim : Trim) (v : Json) : String :=
  applyTrim trim (if escape then Text.escapeHtml (display v) else display v)

/-- The text of an output. -/
def outputText (ctx : Context) (scopes : Scopes) : Output → Rendering String
  | .text s => return s
  | .value e escape trim => do
    let v ← eval ctx scopes e
    return valueText escape trim v

/-- The values that a loop over items runs over. -/
def loopItems : Json → Except RuntimeCause (List Json)
  | .array items => .ok items
  | .string s => .ok (characters s)
  | v => .error (.notIterable (kindName v))

/-- The numbers from zero on, as many as there are elements. -/
def positions (n : Nat) : List Json := (List.range n).map fun i : Nat => .int i

/-- The values that a loop over keys runs over. -/
def loopKeys : Json → List Json
  | .object fields => fields.map fun (key, _) => .string key
  | .array items => positions items.length
  | .string s => positions s.toList.length
  | _ => []

/-- The new value of a variable that is assigned to. -/
def assigned (op : AssignOp) (value old : Json) : Json :=
  match op with
  | .set => value
  | .add => add old value
  | .sub => subtract old value

/-- Runs something in a scope of its own that begins with the variables
`scope`. -/
def inScope (scope : Scope) (run : Frame → Rendering Frame) (frame : Frame) : Rendering Frame := do
  let after ← run { frame with scopes := scope :: frame.scopes }
  return { after with scopes := after.scopes.tail }

/-- Runs the body of a loop once for each of the values of its variable. -/
def turns (name : String) (run : Frame → Rendering Frame) : List Json → Frame → Rendering Frame
  | [], frame => return frame
  | value :: rest, frame => do
    let after ← inScope [(name, value)] run frame
    turns name run rest after

mutual

/-- Runs a statement. -/
def exec (outputs : List Output) (ctx : Context) : Stmt → Frame → Rendering Frame
  | .emit index, frame =>
    match outputs[index]? with
    | none => return frame
    | some output => do
      let text ← outputText ctx frame.scopes output
      return { frame with text := frame.text ++ text }
  | .expr e, frame => do
    let _ ← eval ctx frame.scopes e
    return frame
  | .declare name none, frame =>
    return { frame with scopes := frame.scopes.declare name .null }
  | .declare name (some e), frame => do
    let value ← eval ctx frame.scopes e
    return { frame with scopes := frame.scopes.declare name value }
  | .assign name op e, frame => do
    let value ← eval ctx frame.scopes e
    match frame.scopes.update? name (assigned op value) with
    | some scopes => return { frame with scopes }
    | none => failWith (.notDeclared name)
  | .branch condition yes no, frame => do
    let c ← eval ctx frame.scopes condition
    if truthy c then inScope [] (exec outputs ctx yes) frame
    else
      match no with
      | some no => inScope [] (exec outputs ctx no) frame
      | none => return frame
  | .forOf name e body, frame => do
    let v ← eval ctx frame.scopes e
    let values ← ofResult (loopItems v)
    turns name (exec outputs ctx body) values frame
  | .forIn name e body, frame => do
    let v ← eval ctx frame.scopes e
    turns name (exec outputs ctx body) (loopKeys v) frame
  | .block body, frame => inScope [] (execAll outputs ctx body) frame
  | .empty, frame => return frame

/-- Runs statements one after the other. -/
def execAll (outputs : List Output) (ctx : Context) : List Stmt → Frame → Rendering Frame
  | [], frame => return frame
  | s :: rest, frame => do
    let after ← exec outputs ctx s frame
    execAll outputs ctx rest after

end

/-- Runs a script with data of the given name. -/
def Tree.run (script : Tree) (dataName : String) (data : Json) : Rendering String := do
  let frame ← execAll script.outputs ⟨dataName, data⟩ script.body ⟨[[]], ""⟩
  return frame.text

end Stencil.Script
