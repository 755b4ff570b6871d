import Stencil.Proofs.Cache.Honest

/-!
# Stencil.Proofs.Cache.Recency

What a bounded cache keeps, told by what was done to it and not by how it is kept. A use
of a name is a store, or a look-up that finds it.

1. `uses` is the log of all uses since the cache was last emptied, `distinct` the names
   in it in the order of their latest uses, and `recent` as many of these as there is
   room for (`mem_mostRecent_iff` says which names these are).
2. `LruMap.Recalls` ties the entries of a map to what was done to it: their names are the
   recent ones, and each has the renderer that was stored last.
3. Every operation keeps that (`LruMap.Recalls.apply`), and so does every run of them
   (`LruMap.Recalls.applyAll`), for any map that follows the rules.
-/

namespace Stencil

/-! ## operations -/

namespace Cache

/-- What can be done to a cache. -/
inductive Operation where
  | lookup (name : String)
  | store (name path : String) (r : Renderer)
  | clear

/-- The cache after an operation. -/
def apply : Operation → Cache → Cache
  | .lookup name, cache => (TemplateCache.lookup name cache).2
  | .store name path r, cache => TemplateCache.store name path r cache
  | .clear, cache => cache.clear

/-- The cache after operations, the first one first. -/
def applyAll (ops : List Operation) (cache : Cache) : Cache :=
  ops.foldl (fun cache op => cache.apply op) cache

end Cache

open Cache (Operation)

/-! ## names in the order of their latest uses -/

section
variable {α : Type} [DecidableEq α] {a : α} {as : List α}

/-- The elements of a list, each once and where it occurs first. -/
def distinct : List α → List α
  | [] => []
  | a :: as => a :: (distinct as).filter (· ≠ a)

theorem mem_distinct : a ∈ distinct as ↔ a ∈ as := by
  induction as with
  | nil => rfl
  | cons b as ih =>
    by_cases h : a = b
    · simp [distinct, h]
    · simp [distinct, h, ih]

theorem nodup_distinct (as : List α) : (distinct as).Nodup := by
  induction as with
  | nil => exact List.nodup_nil
  | cons b as ih => exact List.nodup_cons.2 ⟨by simp, ih.filter _⟩

theorem distinct_append (as bs : List α) :
    distinct (as ++ bs) = distinct as ++ (distinct bs).filter (· ∉ as) := by
  induction as with
  | nil =>
    have hall : (distinct bs).filter (· ∉ ([] : List α)) = distinct bs :=
      List.filter_eq_self.2 fun b _ => by simp
    rw [hall]
    rfl
  | cons a as ih =>
    have hboth : ((distinct bs).filter (· ∉ as)).filter (· ≠ a) =
        (distinct bs).filter (· ∉ a :: as) := by
      rw [List.filter_filter]
      refine List.filter_congr fun b _ => ?_
      simp
    rw [List.cons_append, distinct, ih, List.filter_append, hboth]
    rfl

/-- An element taken out of as many as fit leaves room for none that did not fit. -/
theorem take_filter_take (h : as.Nodup) (a : α) (n : Nat) :
    ((as.take (n + 1)).filter (· ≠ a)).take n = (as.filter (· ≠ a)).take n := by
  induction as generalizing n with
  | nil => rfl
  | cons b as ih =>
    obtain ⟨hb, has⟩ := List.nodup_cons.1 h
    rw [List.take_succ_cons]
    by_cases hba : b = a
    · subst hba
      have hkept : ∀ l ⊆ as, l.filter (· ≠ b) = l := fun l hl =>
        List.filter_eq_self.2 fun c hc => decide_eq_true fun hcb => hb (hcb ▸ hl hc)
      rw [List.filter_cons_of_neg (by simp), List.filter_cons_of_neg (by simp),
        hkept _ (List.take_subset n as), hkept as (List.Subset.refl _), List.take_take,
        Nat.min_self]
    · have hkept : ∀ l : List α, (b :: l).filter (· ≠ a) = b :: l.filter (· ≠ a) := fun l =>
        List.filter_cons_of_pos (by simpa using hba)
      rw [hkept, hkept]
      cases n with
      | zero => rfl
      | succ n => rw [List.take_succ_cons, List.take_succ_cons, ih has n]

end

/-- As many of the names used last as there is room for. -/
def mostRecent (capacity : Nat) (used : List String) : List String :=
  (distinct used).take capacity

section
variable {capacity : Nat} {name : String} {used : List String}

/-- A name is among the most recent ones if fewer others than there is room for were used
after its latest use. -/
theorem mem_mostRecent_iff : name ∈ mostRecent capacity used ↔
    ∃ later earlier, used = later ++ name :: earlier ∧ name ∉ later ∧
      (distinct later).length < capacity := by
  have hsplit : ∀ later earlier, name ∉ later → ∃ rest,
      distinct (later ++ name :: earlier) = distinct later ++ name :: rest := by
    intro later earlier hname
    refine ⟨((distinct earlier).filter (· ≠ name)).filter (· ∉ later), ?_⟩
    rw [distinct_append, distinct, List.filter_cons_of_pos (by simpa using hname)]
  constructor
  · intro h
    obtain ⟨later, earlier, rfl, hname⟩ :=
      List.eq_append_cons_of_mem (mem_distinct.1 (List.mem_of_mem_take h))
    refine ⟨later, earlier, rfl, hname, Nat.lt_of_not_le fun hle => hname ?_⟩
    obtain ⟨rest, hrest⟩ := hsplit later earlier hname
    rw [mostRecent, hrest, List.take_append_of_le_length hle] at h
    exact mem_distinct.1 (List.mem_of_mem_take h)
  · rintro ⟨later, earlier, rfl, hname, hlt⟩
    obtain ⟨rest, hrest⟩ := hsplit later earlier hname
    obtain ⟨room, hroom⟩ : ∃ room, capacity - (distinct later).length = room + 1 :=
      ⟨capacity - (distinct later).length - 1, by omega⟩
    rw [mostRecent, hrest, List.take_append, hroom, List.take_succ_cons]
    exact List.mem_append_right _ (List.mem_cons_self ..)

/-- What is used becomes the most recent. The others keep their order, and the last one
goes if there is no room for it. -/
theorem take_promoted (name : String) : (name :: (mostRecent capacity used).filter (· ≠ name)).take
    capacity = mostRecent capacity (name :: used) := by
  cases capacity with
  | zero => rfl
  | succ n =>
    rw [mostRecent, mostRecent, distinct, List.take_succ_cons, List.take_succ_cons,
      take_filter_take (nodup_distinct used)]

/-- None goes if what is used is among the most recent already. -/
theorem promoted_of_mem (h : name ∈ mostRecent capacity used) :
    name :: (mostRecent capacity used).filter (· ≠ name) = mostRecent capacity (name :: used) := by
  have hfewer : ((mostRecent capacity used).filter (· ≠ name)).length <
      (mostRecent capacity used).length :=
    List.length_filter_lt_length_iff_exists.2 ⟨name, h, by simp⟩
  have hroom : (mostRecent capacity used).length ≤ capacity := List.length_take_le _ _
  rw [← take_promoted, List.take_of_length_le]
  rw [List.length_cons]
  omega

end

/-! ## what was done to a cache -/

/-- The names used since a cache was last emptied, the latest use in front. What was done
to the cache is given with the latest operation in front as well. -/
def uses (capacity : Nat) : List Operation → List String
  | [] => []
  | .lookup name :: past =>
    if name ∈ mostRecent capacity (uses capacity past) then name :: uses capacity past
    else uses capacity past
  | .store name _ _ :: past => name :: uses capacity past
  | .clear :: _ => []

/-- The names that a cache has room for among those used since it was last emptied, the
one used last in front. -/
def recent (capacity : Nat) (past : List Operation) : List String :=
  mostRecent capacity (uses capacity past)

/-- The renderer that was stored last under a name since a cache was last emptied. -/
def latest? (name : String) : List Operation → Option Renderer
  | [] => none
  | .lookup _ :: past => latest? name past
  | .store other _ r :: past => if other = name then some r else latest? name past
  | .clear :: _ => none

/-! ## what a cache keeps -/

/-- The names of entries one of which was put in front. -/
theorem LruCache.names_promote (name : String) (r : Renderer) (entries : List (String × Renderer)) :
    (promote name r entries).map Prod.fst = name :: (entries.map Prod.fst).filter (· ≠ name) := by
  rw [promote, List.map_cons, List.filter_map]
  rfl

/-- A look-up finds the names of the entries. -/
theorem lookup_eq_none_iff {name : String} {entries : List (String × Renderer)} :
    entries.lookup name = none ↔ name ∉ entries.map Prod.fst := by
  rw [List.lookup_eq_none_iff]
  constructor
  · intro h hmem
    obtain ⟨entry, hentry, rfl⟩ := List.mem_map.1 hmem
    simpa using h entry hentry
  · intro h entry hentry
    exact bne_iff_ne.2 fun heq => h (heq ▸ List.mem_map_of_mem hentry)

namespace LruMap

variable {μ : Type} [LruMap μ]

/-- The map after an operation on the cache that is kept in it. -/
def apply : Operation → μ → μ
  | .lookup name, m => (get name m).2
  | .store name _ r, m => put name r m
  | .clear, m => clear m

/-- The map after operations, the first one first. -/
def applyAll (ops : List Operation) (m : μ) : μ := ops.foldl (fun m op => apply op m) m

/-- A map keeps what its past tells: the recent names, and under each of them the renderer
that was stored last. -/
structure Recalls (capacity : Nat) (past : List Operation) (m : μ) : Prop where
  room : LruMap.capacity m = capacity
  names : (entries m).map Prod.fst = recent capacity past
  latest : ∀ entry ∈ entries m, latest? entry.1 past = some entry.2

namespace Recalls

variable {name : String} {m : μ} {capacity : Nat} {past : List Operation}

/-- A map that holds nothing has no past. -/
theorem empty (hroom : LruMap.capacity m = capacity) (h : entries m = []) :
    Recalls capacity [] m where
  room := hroom
  names := by rw [h]; exact List.take_nil.symm
  latest := by rw [h]; exact List.forall_mem_nil _

/-- There is room for what a map keeps. -/
theorem length_le (h : Recalls capacity past m) : (entries m).length ≤ capacity := by
  have hlength : (entries m).length = (recent capacity past).length := by
    rw [← h.names, List.length_map]
  rw [hlength]
  exact List.length_take_le _ _

variable [LawfulLruMap μ]

/-- Getting a recent name gives the renderer that was stored last. -/
theorem found (h : Recalls capacity past m) (hname : name ∈ recent capacity past) :
    ∃ r, latest? name past = some r ∧ (entries m).lookup name = some r ∧
      (get name m).1 = some r := by
  rw [← h.names] at hname
  obtain ⟨r, hr⟩ := Option.ne_none_iff_exists'.1 fun hnone => lookup_eq_none_iff.1 hnone hname
  exact ⟨r, h.latest _ (mem_of_lookup hr), hr, by rw [LawfulLruMap.get_fst, hr]⟩

/-- Getting any other name gives nothing and changes nothing. -/
theorem missing (h : Recalls capacity past m) (hname : name ∉ recent capacity past) :
    get name m = (none, m) := by
  rw [← h.names] at hname
  have hnone := lookup_eq_none_iff.2 hname
  exact Prod.ext (by rw [LawfulLruMap.get_fst, hnone]) (LawfulLruMap.get_snd name m hnone)

/-- Every operation adds itself to what a map recalls. -/
theorem apply (h : Recalls capacity past m) (op : Operation) :
    Recalls capacity (op :: past) (LruMap.apply op m) := by
  cases op with
  | lookup name =>
    by_cases hname : name ∈ recent capacity past
    · obtain ⟨r, hlatest, hlookup, -⟩ := h.found hname
      have huses : uses capacity (.lookup name :: past) = name :: uses capacity past :=
        if_pos hname
      have hentries := LawfulLruMap.entries_get name r m hlookup
      refine ⟨(LawfulLruMap.capacity_get name m).trans h.room, ?_, ?_⟩
      · rw [LruMap.apply, hentries, LruCache.names_promote, h.names, recent, recent, huses,
          promoted_of_mem hname]
      · intro entry hentry
        rw [LruMap.apply, hentries] at hentry
        rcases List.mem_cons.1 hentry with rfl | hentry
        · exact hlatest
        · exact h.latest entry (List.mem_filter.1 hentry).1
    · have huses : uses capacity (.lookup name :: past) = uses capacity past := if_neg hname
      have hsame : LruMap.apply (.lookup name) m = m := congrArg Prod.snd (h.missing hname)
      rw [hsame]
      exact ⟨h.room, by rw [h.names, recent, recent, huses], h.latest⟩
  | store name path r =>
    have hentries := LawfulLruMap.entries_put name r m
    refine ⟨(LawfulLruMap.capacity_put name r m).trans h.room, ?_, ?_⟩
    · rw [LruMap.apply, hentries, List.map_take, LruCache.names_promote, h.names, h.room]
      exact take_promoted name
    · intro entry hentry
      rw [LruMap.apply, hentries] at hentry
      rcases List.mem_cons.1 (List.mem_of_mem_take hentry) with rfl | hentry
      · exact if_pos rfl
      · obtain ⟨hmem, hne⟩ := List.mem_filter.1 hentry
        exact (if_neg (Ne.symm (of_decide_eq_true hne))).trans (h.latest entry hmem)
  | clear =>
    have hnone : recent capacity (.clear :: past) = [] := List.take_nil
    have hentries := LawfulLruMap.entries_clear m
    refine ⟨(LawfulLruMap.capacity_clear m).trans h.room, ?_, ?_⟩
    · rw [LruMap.apply, hentries, hnone, List.map_nil]
    · rw [LruMap.apply, hentries]
      exact List.forall_mem_nil _

/-- So does every run of operations. -/
theorem applyAll (h : Recalls capacity past m) (ops : List Operation) :
    Recalls capacity (ops.reverse ++ past) (LruMap.applyAll ops m) := by
  induction ops generalizing m past with
  | nil => exact h
  | cons op ops ih =>
    have hafter := ih (h.apply op)
    rwa [List.reverse_cons, List.append_assoc]

end Recalls

end LruMap

namespace Cache

/-- What is done to a cache of this kind is done to its list. -/
theorem apply_lru (op : Operation) (cache : LruCache) :
    (Cache.lru cache).apply op = .lru (LruMap.apply op cache) := by
  cases op <;> rfl

/-- So are operations one after the other. -/
theorem applyAll_lru (ops : List Operation) (cache : LruCache) :
    (Cache.lru cache).applyAll ops = .lru (LruMap.applyAll ops cache) := by
  induction ops generalizing cache with
  | nil => rfl
  | cons op ops ih =>
    have hrest := ih (LruMap.apply op cache)
    rw [← apply_lru] at hrest
    exact hrest

/-- **A bounded cache keeps the names used last.** After any operations on a cache that was
empty, the names that it holds are the most recent of those used since it was last emptied,
as many as there is room for. A look-up of such a name gives the renderer that was stored
last under it; a look-up of any other name gives nothing and changes nothing. A name is held
if it was used and fewer others than there is room for were used after that. -/
theorem held_eq_recent (capacity : Nat) (h : 0 < capacity) (ops : List Operation) :
    ∃ cache : LruCache, (Cache.lru (.empty capacity h)).applyAll ops = .lru cache ∧
      cache.entries.map Prod.fst = recent capacity ops.reverse ∧ cache.size ≤ capacity ∧
      ∀ name,
        (name ∈ recent capacity ops.reverse → ∃ r, latest? name ops.reverse = some r ∧
          (TemplateCache.lookup name (Cache.lru cache)).1 = some r) ∧
        (name ∉ recent capacity ops.reverse →
          TemplateCache.lookup name (Cache.lru cache) = (none, .lru cache)) ∧
        (name ∈ recent capacity ops.reverse ↔ ∃ later earlier,
          uses capacity ops.reverse = later ++ name :: earlier ∧ name ∉ later ∧
            (distinct later).length < capacity) := by
  have hempty : LruMap.Recalls capacity [] (LruCache.empty capacity h) := .empty rfl rfl
  have hrecalls := hempty.applyAll ops
  rw [List.append_nil] at hrecalls
  refine ⟨_, applyAll_lru ops _, hrecalls.names, hrecalls.length_le,
    fun name => ⟨fun hname => ?_, fun hname => ?_, mem_mostRecent_iff⟩⟩
  · obtain ⟨r, hlatest, -, hfound⟩ := hrecalls.found hname
    exact ⟨r, hlatest, hfound⟩
  · have hmissing : LruCache.lookup name _ = _ := hrecalls.missing hname
    simp only [TemplateCache.lookup, hmissing]

/-- Room for two: a name that is looked up stays, and the other one goes. -/
theorem held_eq_recent_two : ∃ cache : LruCache,
    (Cache.lru (.empty 2 (by decide))).applyAll [.store "a" "a" (.fixed "A"),
      .store "b" "b" (.fixed "B"), .lookup "a", .store "c" "c" (.fixed "C"), .lookup "b"] =
        .lru cache ∧
      cache.entries.map Prod.fst = ["c", "a"] ∧
      (TemplateCache.lookup "a" (Cache.lru cache)).1 = some (.fixed "A") ∧
      TemplateCache.lookup "b" (Cache.lru cache) = (none, .lru cache) := by
  obtain ⟨cache, hcache, hnames, -, hlookup⟩ := held_eq_recent 2 (by decide)
    [.store "a" "a" (.fixed "A"), .store "b" "b" (.fixed "B"), .lookup "a",
      .store "c" "c" (.fixed "C"), .lookup "b"]
  obtain ⟨r, hr, hfound⟩ := (hlookup "a").1 (by decide)
  obtain rfl : Renderer.fixed "A" = r := Option.some.inj hr
  exact ⟨cache, hcache, hnames, hfound, (hlookup "b").2.1 (by decide)⟩

end Cache

end Stencil
