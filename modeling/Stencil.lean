import Stencil.Codegen.Request
import Stencil.Example.TodoList
import Stencil.Proofs.Cache.Dropped
import Stencil.Proofs.Cache.Growth
import Stencil.Proofs.Cache.Recency
import Stencil.Proofs.Example.Agreement
import Stencil.Proofs.Example.Native
import Stencil.Proofs.Script.Control
import Stencil.Proofs.Script.Framing
import Stencil.Proofs.Script.Inlining
import Stencil.Proofs.Template.MarkerEnd
import Stencil.Proofs.Template.Printing
import Stencil.Session
import Stencil.Proofs.Script.Fragments
import Stencil.Proofs.Script.StringMarker
import Stencil.Proofs.Inclusions
import Stencil.Proofs.Script.FirstError
import Stencil.Proofs.Script.ErrorKinds
import Stencil.Proofs.Script.Renaming
import Stencil.Proofs.Codegen.Literal
import Stencil.Proofs.Text.Html
import Stencil.Proofs.Codegen.Lines
import Stencil.Proofs.Codegen.Joining
import Stencil.Proofs.Codegen.StraightLine
import Stencil.Proofs.Codegen.Agreement
import Stencil.Proofs.Script.FunctionCalls
import Stencil.Proofs.Number.Numerals
import Stencil.Proofs.Json.Fields
import Stencil.Proofs.Script.Elements
import Stencil.Proofs.Script.Unfinished
import Stencil.Proofs.Script.ErrorPlaces
import Stencil.Proofs.Template.Slices
import Stencil.Proofs.Script.Cursor
import Stencil.Proofs.Script.ExactIntegers
import Stencil.Proofs.Script.Offsets
import Stencil.Proofs.Script.Progress
