import Stencil.Config
import Stencil.Files
import Stencil.Json.Basic
import Stencil.Rendering
import Stencil.Template.Program

/-!
# Stencil.Compiler

Compiling templates. An engine decides what the code of a template means; a
compiler is a configuration together with an engine, and makes a renderer of a
template. A template without markers is its own output, a mark of byte order at
its front included. The renderer of any other one keeps the compiler, which its
partials are compiled with.
-/

namespace Stencil

/-- A template ready to run with data. -/
abbrev Executable := Json → Rendering String

/-- What makes a template ready to run, given the name that the data has. -/
abbrev Engine := Program → String → Except Error Executable

/-- A configuration and an engine. -/
structure Compiler where
  config : Config
  engine : Engine
  /-- Whether partials are looked for in the cache, as long as there is one. -/
  cached : Bool

/-- A compiled template. -/
inductive Renderer where
  /-- A template that is its own output. -/
  | fixed (source : String)
  /-- A template that runs; its partials are compiled by `compiler`. -/
  | program (run : Executable) (compiler : Compiler)

namespace Renderer

/-- Whether a template is its own output. -/
def isFixed : Renderer → Bool
  | .fixed _ => true
  | .program .. => false

/-- A renderer as it is shown to a developer. -/
def describe (r : Renderer) : String :=
  String.join ["Renderer \x7b static: ", toString r.isFixed, " \x7d"]

end Renderer

namespace Compiler

/-- Compiles a template. -/
def compile (c : Compiler) (source : String) : Except Error Renderer :=
  match Program.build? c.config.delimiters source with
  | none => .ok (.fixed source)
  | some program => do
    let run ← c.engine program c.config.effectiveDataName
    return .program run c

/-- Compiles a template given as octets, which have to be UTF-8. -/
def compileOctets (c : Compiler) (octets : List UInt8) : Except Error Renderer :=
  match Text.ofUtf8? octets with
  | some source => c.compile source
  | none => .error .notText

/-- Reads and compiles the template in a file. -/
def compileFile (c : Compiler) (files : Files) (path : String) : Except Error Renderer :=
  match files.read path with
  | .ok octets => c.compileOctets octets
  | .error fault => .error (.unreadable fault path)

/-- The path of the partial `name`. -/
def resolve (c : Compiler) (name : String) : String := c.config.resolve name

end Compiler

end Stencil
