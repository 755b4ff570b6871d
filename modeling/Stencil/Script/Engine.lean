import Stencil.Compiler
import Stencil.Script.Run

/-!
# Stencil.Script.Engine

The engine that runs the code of templates as scripts.
-/

namespace Stencil.Script

/-- The script engine. -/
def engine : Engine := fun program dataName => do
  let script ← ofProgram program
  return script.run dataName

end Stencil.Script
