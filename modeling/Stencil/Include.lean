import Stencil.Cache
import Stencil.Json.Print

/-!
# Stencil.Include

Rendering with partials. The partial `name` is the template in the file that
the configuration resolves the name to, compiled with the compiler of the
template that includes it. A compiler that may use the cache looks there first,
as long as there is a cache, and stores what it compiles before the partial
runs. Without a cache the file is read and compiled every time.

Partials may include each other without end, so the depth of inclusion is
bounded; `Outcome.tooDeep` is the outcome where the bound is met.
-/

namespace Stencil

open Rendering (Outcome)

variable {κ : Type} [TemplateCache κ]

namespace Compiler

/-- The cache that a compiler uses: none if it does not use one or if there is
none any more. -/
def liveCache (c : Compiler) (cache : Option κ) : Option κ :=
  if c.cached then cache.bind TemplateCache.upgrade else none

/-- A compiler that goes on without a cache. -/
def uncached (c : Compiler) : Compiler := { c with cached := false }

end Compiler

/-- The cache after a partial was compiled. Nothing is stored if that failed. -/
def storeCompiled (name path : String) (compiled : Except Error Renderer) (cache : κ) : κ :=
  match compiled with
  | .ok r => TemplateCache.store name path r cache
  | .error _ => cache

/-- The partial `name` ready to run, and the cache after it was looked for. -/
def Compiler.fetch (files : Files) (c : Compiler) (name : String) (cache : Option κ) :
    Except Error Renderer × Option κ :=
  match c.liveCache cache with
  | none => (c.uncached.compileFile files (c.resolve name), cache)
  | some live =>
    match TemplateCache.lookup name live with
    | (some r, live) => (.ok r, some live)
    | (none, live) =>
      let path := c.resolve name
      let compiled := c.compileFile files path
      (compiled, some (storeCompiled name path compiled live))

section
variable {files : Files} {c : Compiler} {name : String} {cache : Option κ} {live after : κ}

theorem Compiler.fetch_of_none (h : c.liveCache cache = none) :
    c.fetch files name cache = (c.uncached.compileFile files (c.resolve name), cache) := by
  simp only [Compiler.fetch, h]

theorem Compiler.fetch_of_hit {r : Renderer} (h : c.liveCache cache = some live)
    (hit : TemplateCache.lookup name live = (some r, after)) :
    c.fetch files name cache = (.ok r, some after) := by
  simp only [Compiler.fetch, h, hit]

theorem Compiler.fetch_of_miss (h : c.liveCache cache = some live)
    (miss : TemplateCache.lookup name live = (none, after)) :
    c.fetch files name cache =
      (c.compileFile files (c.resolve name),
        some (storeCompiled name (c.resolve name) (c.compileFile files (c.resolve name)) after)) := by
  simp only [Compiler.fetch, h, miss]

end

section
variable {σ : Type}

/-- Runs a renderer. The partials that it asks for come from `reply`, which is
told the compiler to use. -/
def Renderer.runWith (reply : Compiler → String → Json → σ → Outcome String × σ)
    (r : Renderer) (data : Json) (s : σ) : Outcome String × σ :=
  match r with
  | .fixed source => (.done source, s)
  | .program run compiler => (run data).answer (reply compiler) s

/-- Runs what was compiled, unless compiling it failed. -/
def runCompiled (reply : Compiler → String → Json → σ → Outcome String × σ)
    (compiled : Except Error Renderer) (data : Json) (s : σ) : Outcome String × σ :=
  match compiled with
  | .ok r => r.runWith reply data s
  | .error e => (.fail e, s)

end

/-- Renders the partial `name` with data, where partials are nested at most
`depth` deep. -/
def includePartial (files : Files) :
    Nat → Compiler → String → Json → Option κ → Outcome String × Option κ
  | 0, _, _, _, cache => (.tooDeep, cache)
  | depth + 1, c, name, data, cache =>
    let (compiled, cache) := c.fetch files name cache
    runCompiled (includePartial files depth) compiled data cache

/-- Renders a template with data. -/
def Renderer.render (files : Files) (depth : Nat) (r : Renderer) (data : Json)
    (cache : Option κ) : Outcome String × Option κ :=
  r.runWith (includePartial files depth) data cache

/-! ## data given as a map -/

/-- The text that a key is written as: a text as it is, a truth value or a
number as in JSON. No other value is a key. -/
def keyText : Json → Except Error String
  | .string s => .ok s
  | .bool b => .ok (toString b)
  | .number n => .ok (Json.numberText n)
  | _ => .error (.runtime .keyNotText)

/-- The data that a map given by its entries is, the last of equal keys
counting. -/
def dataOfEntries (entries : List (Json × Json)) : Except Error Json := do
  let fields ← entries.mapM fun entry => do
    let key ← keyText entry.1
    return (key, entry.2)
  return .ofFields fields

end Stencil
