import Stencil.Include

/-!
# Stencil.Session

A session: one compiler, the resolver of partials made from it, files that
change, renderers kept under names, and a cache that may be dropped. Renderers
and the resolver never own the cache, so once it is dropped they go on without
one, and so does the compiler from then on.
-/

namespace Stencil

open Rendering (Outcome)

/-- The state of a session. -/
structure Session where
  files : Files
  /-- Compiles the templates of the session. -/
  compiler : Compiler
  /-- Includes partials on behalf of the session. -/
  resolver : Compiler
  cache : Option Cache
  /-- The renderers kept, by name. -/
  renderers : List (String × Renderer)

/-- What can be done in a session. -/
inductive Step where
  /-- Compiles a template and keeps its renderer under a name. -/
  | compile (name : String) (octets : List UInt8)
  /-- Compiles the template in a file and keeps its renderer under a name. -/
  | compileFile (name path : String)
  /-- Renders a renderer that is kept. -/
  | render (name : String) (data : Json)
  /-- Renders a partial. -/
  | includePartial (name : String) (data : Json)
  | write (place : List String) (node : FileNode)
  | remove (place : List String)
  /-- Renders what the cache holds under a name. -/
  | lookup (name : String) (data : Json)
  /-- Compiles a template and stores it in the cache. -/
  | store (name path : String) (octets : List UInt8)
  /-- Empties the cache. -/
  | clear
  | dropCache

/-- What a step gives. -/
inductive Reply where
  | done
  /-- A template was compiled; `fixed` says whether it is its own output. -/
  | compiled (fixed : Bool)
  /-- Compiling failed. -/
  | refused (e : Error)
  /-- There is no renderer of that name. -/
  | missing
  /-- How a rendering ended. -/
  | rendered (outcome : Outcome String)

namespace Session

/-- The session that begins with a configuration, an engine, files and perhaps
a cache. -/
def start (config : Config) (engine : Engine) (files : Files) (cache : Option Cache) : Session :=
  let compiler : Compiler := ⟨config, engine, cache.isSome⟩
  ⟨files, compiler, compiler, cache, []⟩

/-- Keeps what was compiled under a name, unless compiling it failed. -/
def keep (name : String) (compiled : Except Error Renderer) (s : Session) : Reply × Session :=
  match compiled with
  | .ok r =>
    (.compiled r.isFixed, { s with renderers := (name, r) :: s.renderers.filter (·.1 ≠ name) })
  | .error e => (.refused e, s)

/-- Renders with the files and the cache of a session. -/
def rendered (depth : Nat) (r : Renderer) (data : Json) (s : Session) : Reply × Session :=
  let (outcome, cache) := r.render s.files depth data s.cache
  (.rendered outcome, { s with cache })

/-- Looks a name up in the cache of a session and renders what it holds. -/
def lookup (depth : Nat) (name : String) (data : Json) (s : Session) : Reply × Session :=
  match s.cache with
  | none => (.missing, s)
  | some cache =>
    match TemplateCache.lookup name cache with
    | (none, cache) => (.missing, { s with cache := some cache })
    | (some r, cache) => rendered depth r data { s with cache := some cache }

/-- Stores what was compiled in the cache of a session, unless compiling it
failed. -/
def store (name path : String) (compiled : Except Error Renderer) (s : Session) :
    Reply × Session :=
  match compiled with
  | .ok r => (.done, { s with cache := s.cache.map (TemplateCache.store name path r) })
  | .error e => (.refused e, s)

/-- Does a step. Partials are nested at most `depth` deep. -/
def step (depth : Nat) : Step → Session → Reply × Session
  | .compile name octets, s => s.keep name (s.compiler.compileOctets octets)
  | .compileFile name path, s => s.keep name (s.compiler.compileFile s.files path)
  | .render name data, s =>
    match s.renderers.lookup name with
    | some r => s.rendered depth r data
    | none => (.missing, s)
  | .includePartial name data, s =>
    let (outcome, cache) := Stencil.includePartial s.files depth s.resolver name data s.cache
    (.rendered outcome, { s with cache })
  | .write place node, s => (.done, { s with files := s.files.write place node })
  | .remove place, s => (.done, { s with files := s.files.remove place })
  | .lookup name data, s => s.lookup depth name data
  | .store name path octets, s => s.store name path (s.compiler.compileOctets octets)
  | .clear, s => (.done, { s with cache := s.cache.map Cache.clear })
  | .dropCache, s => (.done, { s with cache := none, compiler := s.compiler.uncached })

/-- Does steps one after the other. -/
def run (depth : Nat) : List Step → Session → List Reply × Session
  | [], s => ([], s)
  | step :: rest, s =>
    let (reply, s) := s.step depth step
    let (replies, s) := run depth rest s
    (reply :: replies, s)

end Session

end Stencil
