import Stencil.Cache

/-!
# Stencil.Proofs.Cache.Honest

What may be expected of a cache: a look-up returns nothing, or a renderer that
was stored earlier under the same name. Nothing is said of how long a renderer
is kept, so a cache may forget any of them at any time, and it may be dropped.

`Reached` describes how a cache comes to be in a state, with a log of all that
was stored on the way, and `Honest` is the expectation. `Shared` is a cache that
others change between any two uses of it; `Shared.honest` says that both kinds
of cache are honest even then, as long as the others only make them forget.
-/

namespace Stencil

variable {κ : Type} [TemplateCache κ]

namespace TemplateCache

/-- The states that a cache comes to from `start`, each with a log of all that
was stored so far, the latest in front. -/
inductive Reached (start : κ) : κ → List (String × Renderer) → Prop where
  | start : Reached start start []
  | upgraded {cache cache' : κ} {log : List (String × Renderer)} :
    Reached start cache log → upgrade cache = some cache' → Reached start cache' log
  | lookedUp {cache : κ} {log : List (String × Renderer)} (name : String) :
    Reached start cache log → Reached start (lookup name cache).2 log
  | stored {cache : κ} {log : List (String × Renderer)} (name path : String) (r : Renderer) :
    Reached start cache log → Reached start (store name path r cache) ((name, r) :: log)

/-- Every look-up returns nothing or what was stored earlier under that name. -/
def Honest (start : κ) : Prop :=
  ∀ cache log name r, Reached start cache log → (lookup name cache).1 = some r → (name, r) ∈ log

/-- Going on from a state that was reached. -/
theorem Reached.trans {start cache after : κ} {log more : List (String × Renderer)}
    (h : Reached start cache log) (h' : Reached cache after more) :
    Reached start after (more ++ log) := by
  induction h' with
  | start => exact h
  | upgraded _ hup ih => exact .upgraded ih hup
  | lookedUp name _ ih => exact .lookedUp name ih
  | stored name path r _ ih => exact .stored name path r ih

/-- As long as only renderers with the property are stored, only such are found. -/
def Gives (P : Renderer → Prop) (start : κ) : Prop :=
  ∀ cache log name r, Reached start cache log → (∀ entry ∈ log, P entry.2) →
    (lookup name cache).1 = some r → P r

/-- It stays so. -/
theorem Gives.of_reached {P : Renderer → Prop} {start cache : κ} {log : List (String × Renderer)}
    (h : Gives P start) (hreached : Reached start cache log) (hlog : ∀ entry ∈ log, P entry.2) :
    Gives P cache := by
  intro after more name r hmore hP hfound
  refine h after (more ++ log) name r (hreached.trans hmore) (fun entry hentry => ?_) hfound
  rcases List.mem_append.1 hentry with hentry | hentry
  · exact hP entry hentry
  · exact hlog entry hentry

end TemplateCache

/-! ## the entries of a cache -/

theorem mem_of_lookup {α β : Type} [BEq α] [LawfulBEq α] {a : α} {b : β} {l : List (α × β)}
    (h : l.lookup a = some b) : (a, b) ∈ l := by
  obtain ⟨front, back, rfl, -⟩ := List.lookup_eq_some_iff.1 h
  simp

namespace LruMap

variable {μ : Type} [LruMap μ] [LawfulLruMap μ]

/-- Getting an entry adds none. -/
theorem entries_get_subset (name : String) (m : μ) : entries (get name m).2 ⊆ entries m := by
  cases h : (entries m).lookup name with
  | none =>
    rw [LawfulLruMap.get_snd name m h]
    exact List.Subset.refl _
  | some r =>
    rw [LawfulLruMap.entries_get name r m h]
    exact List.cons_subset.2 ⟨mem_of_lookup h, List.filter_sublist.subset⟩

/-- Putting an entry in adds no other one. -/
theorem entries_put_subset (name : String) (r : Renderer) (m : μ) :
    entries (put name r m) ⊆ (name, r) :: entries m := by
  rw [LawfulLruMap.entries_put]
  exact List.Subset.trans (List.take_subset _ _)
    (List.cons_subset_cons _ List.filter_sublist.subset)

/-- A map that holds nothing at first is an honest cache. -/
theorem honest {m : μ} (h : entries m = []) : (templateCache μ).Honest m := by
  let := templateCache μ
  intro after log name r hreached hfound
  have hentries : entries after ⊆ log := by
    clear hfound
    induction hreached with
    | start => exact h ▸ List.Subset.refl _
    | upgraded _ hup ih => exact Option.some.inj hup ▸ ih
    | lookedUp name _ ih => exact List.Subset.trans (entries_get_subset name _) ih
    | stored name path r _ ih =>
      exact List.Subset.trans (entries_put_subset name r _) (List.cons_subset_cons _ ih)
  exact hentries (mem_of_lookup ((LawfulLruMap.get_fst name after).symm.trans hfound))

end LruMap

namespace Cache

/-- The renderers that a cache keeps, each with its name. -/
def entries : Cache → List (String × Renderer)
  | .memory cache => cache.entries.map fun entry => (entry.1, entry.2.2)
  | .lru cache => cache.entries

/-- A look-up finds an entry. -/
theorem mem_entries_of_lookup {name : String} {r : Renderer} {cache : Cache}
    (h : (TemplateCache.lookup name cache).1 = some r) : (name, r) ∈ cache.entries := by
  cases cache with
  | memory cache =>
    obtain ⟨entry, he, rfl⟩ := Option.map_eq_some_iff.1 h
    exact List.mem_map.2 ⟨(name, entry), mem_of_lookup he, rfl⟩
  | lru cache => exact mem_of_lookup ((LawfulLruMap.get_fst name cache).symm.trans h)

/-- A look-up that finds nothing changes nothing. -/
theorem lookup_of_missing {name : String} {cache : Cache}
    (h : (TemplateCache.lookup name cache).1 = none) :
    TemplateCache.lookup name cache = (none, cache) := by
  cases cache with
  | memory cache => exact Prod.ext h rfl
  | lru cache =>
    simp only [TemplateCache.lookup, LruCache.lookup] at h ⊢
    split at h
    · cases h
    · rfl

/-- A look-up adds no entry. -/
theorem entries_lookup (name : String) (cache : Cache) :
    (TemplateCache.lookup name cache).2.entries ⊆ cache.entries := by
  cases cache with
  | memory cache => exact List.Subset.refl _
  | lru cache => exact LruMap.entries_get_subset name cache

/-- Storing adds one entry at most. -/
theorem entries_store (name path : String) (r : Renderer) (cache : Cache) :
    (TemplateCache.store name path r cache).entries ⊆ (name, r) :: cache.entries := by
  cases cache with
  | memory cache =>
    have h : (cache.entries.filter (·.1 ≠ name)).map (fun entry => (entry.1, entry.2.2)) ⊆
        cache.entries.map fun entry => (entry.1, entry.2.2) :=
      List.map_subset _ List.filter_sublist.subset
    exact List.cons_subset_cons _ h
  | lru cache => exact LruMap.entries_put_subset name r cache

/-- A cache gives what it keeps and what is stored. -/
theorem gives {P : Renderer → Prop} {cache : Cache} (h : ∀ entry ∈ cache.entries, P entry.2) :
    TemplateCache.Gives P cache := by
  intro after log name r hreached hlog hfound
  have hentries : after.entries ⊆ log ++ cache.entries := by
    clear hlog hfound
    induction hreached with
    | start => exact List.Subset.refl _
    | upgraded _ hup ih =>
      obtain rfl := Option.some.inj hup
      exact ih
    | lookedUp name _ ih => exact List.Subset.trans (entries_lookup name _) ih
    | stored name path r _ ih =>
      exact List.Subset.trans (entries_store name path r _) (List.cons_subset_cons _ ih)
  rcases List.mem_append.1 (hentries (mem_entries_of_lookup hfound)) with hmem | hmem
  · exact hlog _ hmem
  · exact h _ hmem

/-- A change after which a cache keeps nothing that it did not keep before. The
cache may be gone after it. -/
def Forgets (change : Cache → Option Cache) : Prop :=
  ∀ cache cache', change cache = some cache' → cache'.entries ⊆ cache.entries

theorem forgets_clear : Forgets fun cache => some cache.clear := by
  intro cache cache' h
  obtain rfl : cache.clear = cache' := by injection h
  cases cache <;> exact List.nil_subset _

theorem forgets_drop : Forgets fun _ => none := by
  intro cache cache' h
  cases h

end Cache

/-! ## caches that others change -/

/-- A cache that others own. -/
structure Shared (κ : Type) where
  cache : κ
  /-- What the others do to it: the first change is made before the cache is
  wanted the next time, and so on. A change may drop the cache. -/
  changes : List (κ → Option κ)

instance {κ : Type} [TemplateCache κ] : TemplateCache (Shared κ) where
  upgrade shared :=
    match shared.changes with
    | [] => some shared
    | change :: changes => (change shared.cache).map fun cache => ⟨cache, changes⟩
  lookup name shared :=
    let (found, cache) := TemplateCache.lookup name shared.cache
    (found, { shared with cache })
  store name path r shared := { shared with cache := TemplateCache.store name path r shared.cache }

namespace Shared

/-- A shared cache keeps only what was stored. -/
theorem entries_subset_of_reached {cache : Cache} {changes : List (Cache → Option Cache)}
    (hempty : cache.entries = []) (hforget : ∀ change ∈ changes, Cache.Forgets change)
    {shared : Shared Cache} {log : List (String × Renderer)}
    (h : TemplateCache.Reached ⟨cache, changes⟩ shared log) :
    shared.cache.entries ⊆ log ∧ shared.changes ⊆ changes := by
  induction h with
  | start => exact ⟨by simp [hempty], List.Subset.refl _⟩
  | @upgraded shared shared' log _ hup ih =>
    simp only [TemplateCache.upgrade] at hup
    split at hup
    · obtain rfl : shared = shared' := by injection hup
      exact ih
    · next change rest hc =>
      obtain ⟨kept, hk, rfl⟩ := Option.map_eq_some_iff.1 hup
      rw [hc] at ih
      obtain ⟨hchange, hrest⟩ := List.cons_subset.1 ih.2
      exact ⟨List.Subset.trans (hforget change hchange _ _ hk) ih.1, hrest⟩
  | lookedUp name _ ih => exact ⟨List.Subset.trans (Cache.entries_lookup name _) ih.1, ih.2⟩
  | stored name path r _ ih =>
    exact ⟨List.Subset.trans (Cache.entries_store name path r _) (List.cons_subset_cons _ ih.1),
      ih.2⟩

/-- A cache that is empty at first is honest, whenever others make it forget. -/
theorem honest {cache : Cache} {changes : List (Cache → Option Cache)}
    (hempty : cache.entries = []) (hforget : ∀ change ∈ changes, Cache.Forgets change) :
    TemplateCache.Honest (⟨cache, changes⟩ : Shared Cache) := by
  intro shared log name r hreached hfound
  exact (entries_subset_of_reached hempty hforget hreached).1
    (Cache.mem_entries_of_lookup hfound)

end Shared

end Stencil
