import Stencil.Compiler

/-!
# Stencil.Cache

Caches of compiled partials. Whoever includes partials looks a name up and
stores what was missing, and knows nothing else of a cache, which it does not
own: each time it has to see first what is left of it. There are two kinds: one
keeps everything, and the path of the file besides; the other keeps a bounded
number of partials and gives up the one that was used least recently.

The map that the second one is kept in may be any that follows the rules of
`LawfulLruMap`; a list in the order of the latest uses is one.
-/

namespace Stencil

/-- What the inclusion of partials asks of a cache. -/
class TemplateCache (κ : Type) where
  /-- What is left of the cache when it is wanted again. Whoever owns it may have
  changed it since, or dropped it. -/
  upgrade : κ → Option κ := some
  /-- The renderer of a name, if there is one. A look-up may change the cache. -/
  lookup : String → κ → Option Renderer × κ
  /-- Keeps the renderer of a name, compiled from the file at a path. -/
  store : (name path : String) → Renderer → κ → κ

/-! ## keeping everything -/

/-- The renderers of all partials, with the paths of their files. -/
structure MemoryCache where
  entries : List (String × String × Renderer)

namespace MemoryCache

/-- The cache that holds nothing. -/
def empty : MemoryCache := ⟨[]⟩

/-- The renderer kept under a name. -/
def lookup (name : String) (cache : MemoryCache) : Option Renderer :=
  (cache.entries.lookup name).map (·.2)

/-- The path of the file of a partial that is kept. -/
def path? (name : String) (cache : MemoryCache) : Option String :=
  (cache.entries.lookup name).map (·.1)

/-- Keeps a renderer in place of one of the same name. -/
def store (name path : String) (r : Renderer) (cache : MemoryCache) : MemoryCache :=
  ⟨(name, path, r) :: cache.entries.filter (·.1 ≠ name)⟩

/-- The number of partials kept. -/
def size (cache : MemoryCache) : Nat := cache.entries.length

end MemoryCache

instance : TemplateCache MemoryCache where
  lookup name cache := (cache.lookup name, cache)
  store := MemoryCache.store

/-! ## keeping the most recently used -/

/-- Entries with one of them in front and no other of its name. -/
def LruCache.promote (name : String) (r : Renderer) (entries : List (String × Renderer)) :
    List (String × Renderer) :=
  (name, r) :: entries.filter (·.1 ≠ name)

/-- What a bounded cache asks of the map that it keeps its renderers in. -/
class LruMap (μ : Type) where
  /-- The number of entries that there is room for. -/
  capacity : μ → Nat
  /-- The entries, the one used last in front. -/
  entries : μ → List (String × Renderer)
  /-- The renderer of a name. -/
  get : String → μ → Option Renderer × μ
  /-- Sets the renderer of a name. -/
  put : String → Renderer → μ → μ
  /-- Takes all entries out. -/
  clear : μ → μ

open LruMap in
/-- The rules of such a map. Getting an entry is a use of it, and so is putting one in, which
gives up the one that was used least recently if there is no room for both. -/
class LawfulLruMap (μ : Type) [LruMap μ] : Prop where
  get_fst : ∀ name (m : μ), (get name m).1 = (entries m).lookup name
  entries_get : ∀ name r (m : μ), (entries m).lookup name = some r →
    entries (get name m).2 = LruCache.promote name r (entries m)
  get_snd : ∀ name (m : μ), (entries m).lookup name = none → (get name m).2 = m
  entries_put : ∀ name r (m : μ),
    entries (put name r m) = (LruCache.promote name r (entries m)).take (capacity m)
  entries_clear : ∀ m : μ, entries (clear m) = []
  capacity_get : ∀ name (m : μ), capacity (get name m).2 = capacity m
  capacity_put : ∀ name r (m : μ), capacity (put name r m) = capacity m
  capacity_clear : ∀ m : μ, capacity (clear m) = capacity m

/-- The cache that such a map is. It keeps no paths of files. -/
@[reducible] def LruMap.templateCache (μ : Type) [LruMap μ] : TemplateCache μ where
  lookup := LruMap.get
  store name _ := LruMap.put name

/-- The renderers of at most `capacity` partials, the most recently used in
front. -/
structure LruCache where
  capacity : Nat
  capacity_pos : 0 < capacity
  entries : List (String × Renderer)

namespace LruCache

/-- The cache of a capacity that holds nothing. -/
def empty (capacity : Nat) (h : 0 < capacity) : LruCache := ⟨capacity, h, []⟩

/-- The renderer kept under a name. Finding it is a use. -/
def lookup (name : String) (cache : LruCache) : Option Renderer × LruCache :=
  match cache.entries.lookup name with
  | some r => (some r, { cache with entries := promote name r cache.entries })
  | none => (none, cache)

/-- Keeps a renderer, which is a use, and gives up the least recently used one
if there is no room for both. -/
def store (name : String) (r : Renderer) (cache : LruCache) : LruCache :=
  { cache with entries := (promote name r cache.entries).take cache.capacity }

/-- The number of partials kept. -/
def size (cache : LruCache) : Nat := cache.entries.length

/-- A look-up that finds an entry puts it in front. -/
theorem lookup_of_found {name : String} {r : Renderer} {cache : LruCache}
    (h : cache.entries.lookup name = some r) :
    cache.lookup name = (some r, { cache with entries := promote name r cache.entries }) := by
  simp only [lookup, h]

/-- A look-up that finds none changes nothing. -/
theorem lookup_of_missing {name : String} {cache : LruCache}
    (h : cache.entries.lookup name = none) : cache.lookup name = (none, cache) := by
  simp only [lookup, h]

end LruCache

instance : LruMap LruCache where
  capacity := LruCache.capacity
  entries := LruCache.entries
  get := LruCache.lookup
  put := LruCache.store
  clear cache := { cache with entries := [] }

instance : LawfulLruMap LruCache where
  get_fst name cache := by
    cases h : cache.entries.lookup name with
    | none => exact congrArg Prod.fst (LruCache.lookup_of_missing h)
    | some r => exact congrArg Prod.fst (LruCache.lookup_of_found h)
  entries_get name r cache h :=
    congrArg (fun found => found.2.entries) (LruCache.lookup_of_found h)
  get_snd name cache h := congrArg Prod.snd (LruCache.lookup_of_missing h)
  entries_put _ _ _ := rfl
  entries_clear _ := rfl
  capacity_get name cache := by
    cases h : cache.entries.lookup name with
    | none => exact congrArg (fun found => found.2.capacity) (LruCache.lookup_of_missing h)
    | some r => exact congrArg (fun found => found.2.capacity) (LruCache.lookup_of_found h)
  capacity_put _ _ _ := rfl
  capacity_clear _ := rfl

instance : TemplateCache LruCache := LruMap.templateCache LruCache

/-! ## either of them -/

/-- A cache of one of the two kinds. -/
inductive Cache where
  | memory (cache : MemoryCache)
  | lru (cache : LruCache)

namespace Cache

/-- The number of partials kept. -/
def size : Cache → Nat
  | .memory cache => cache.size
  | .lru cache => cache.size

/-- The path of the file of a partial, if the cache keeps it. -/
def path? (name : String) : Cache → Option String
  | .memory cache => cache.path? name
  | .lru _ => none

/-- A cache of the same kind that holds nothing. -/
def clear : Cache → Cache
  | .memory _ => .memory .empty
  | .lru cache => .lru { cache with entries := [] }

end Cache

instance : TemplateCache Cache where
  lookup name
    | .memory cache => (cache.lookup name, .memory cache)
    | .lru cache =>
      let (found, cache) := cache.lookup name
      (found, .lru cache)
  store name path r
    | .memory cache => .memory (cache.store name path r)
    | .lru cache => .lru (cache.store name r)

end Stencil
