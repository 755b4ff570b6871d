import Stencil.Template.Scan

/-!
# Stencil.Template.Program

A template as a list of operations on its output, in source order: write a
text, write the value of an expression, run a piece of code. The code of one
node may be the front or the back half of a control structure, so what a node
means is known only from the whole list.
-/

namespace Stencil

/-- An operation of a template. -/
inductive Node where
  /-- Writes a text. -/
  | literal (text : String)
  /-- Writes the value of an expression: escaped if `escape` holds, then
  trimmed. -/
  | value (expr : String) (escape : Bool) (trim : Trim)
  /-- Runs code. -/
  | code (text : String)
  deriving DecidableEq, Repr

namespace Node

/-- Whether a node comes from a marker. -/
def isMarker : Node → Bool
  | .literal _ => false
  | _ => true

/-- The text that a node is made of. -/
def source : Node → String
  | .literal text => text
  | .value expr _ _ => expr
  | .code text => text

/-- The operation that a marker stands for. -/
def ofMarker (m : Marker) : Node :=
  match m.kind with
  | .code => .code m.content
  | .raw => .value m.content false m.trim
  | .escaped => .value m.content true m.trim

/-- The operation that a segment stands for. -/
def ofSegment : Segment → Node
  | .text s => .literal s
  | .marker m => ofMarker m

end Node

/-- A template as a list of operations. -/
abbrev Program := List Node

namespace Program

/-- The number of nodes that come from markers. -/
def markers (program : Program) : Nat := program.countP Node.isMarker

/-- The operations of a template; none if it has no marker, so that it is its
own output. -/
def build? (delimiters : Delimiters) (source : String) : Option Program :=
  let nodes := (Scan.segments delimiters source).map Node.ofSegment
  if nodes.any Node.isMarker then some nodes else none

end Program

end Stencil
