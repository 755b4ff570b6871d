import Stencil.Proofs.Cache.Transparency
import Stencil.Proofs.Results
import Stencil.Proofs.Script.Inlining
import Stencil.Proofs.Script.Prepared

/-!
# Stencil.Proofs.Cache.Growth

What including a partial does to the cache, however it ends and whatever partials it
includes in turn.

1. Getting hold of a partial leaves the cache as it was, reads no file and compiles nothing
   if the cache has the partial (`Compiler.fetch_of_found`). Otherwise the cache gets the
   partial if it can be loaded (`Compiler.fetch_of_loaded`), and stays as it was if it
   cannot (`Compiler.fetch_of_unloadable`).
2. A renderer that is found in the cache includes partials with the compiler that it keeps,
   which need not be the one it was found with. So each inclusion is written down together
   with the compiler of the template that includes (`includeNoted`), which changes nothing
   (`includeNoted_matches`).
3. A cache that keeps everything only grows: nothing in it is lost or replaced, and all that
   is new was loaded from its file by an inclusion that is written down
   (`MemoryCache.Grows`). Including a partial keeps that by induction on how deeply partials
   are nested (`includeNoted_grown`).
-/

namespace Stencil

open Rendering (Outcome Matches)

/-! ## loading -/

section
variable {files : Files} {c : Compiler} {name : String} {r : Renderer} {e : Error}

/-- The error of loading a partial: its file cannot be read, what the file holds is no
text, or the text cannot be compiled. -/
inductive Unloadable (files : Files) (c : Compiler) (name : String) : Error → Prop where
  | unreadable {fault : ReadFault} : files.read (c.resolve name) = .error fault →
    Unloadable files c name (.unreadable fault (c.resolve name))
  | notText {octets : List UInt8} : files.read (c.resolve name) = .ok octets →
    Text.ofUtf8? octets = none → Unloadable files c name .notText
  | refused {octets : List UInt8} {source : String} {e : Error} :
    files.read (c.resolve name) = .ok octets → Text.ofUtf8? octets = some source →
    c.compile source = .error e → Unloadable files c name e

/-- A renderer is compiled from the octets in the file of a partial. -/
structure Loaded (files : Files) (c : Compiler) (name path : String) (r : Renderer) : Prop where
  path_eq : path = c.resolve name
  compiled : ∃ octets, files.read path = .ok octets ∧ c.compileOctets octets = .ok r

theorem Unloadable.compileFile (h : Unloadable files c name e) :
    c.compileFile files (c.resolve name) = .error e := by
  cases h with
  | unreadable hread => simp only [Compiler.compileFile, hread]
  | notText hread htext => simp only [Compiler.compileFile, hread, Compiler.compileOctets, htext]
  | refused hread htext hcompile =>
    simp only [Compiler.compileFile, hread, Compiler.compileOctets, htext, hcompile]

theorem unloadable_of_compileFile (h : c.compileFile files (c.resolve name) = .error e) :
    Unloadable files c name e := by
  simp only [Compiler.compileFile] at h
  split at h
  · next octets hread =>
    simp only [Compiler.compileOctets] at h
    split at h
    · next source htext => exact .refused hread htext h
    · next htext =>
      obtain rfl : Error.notText = e := by injection h
      exact .notText hread htext
  · next fault hread =>
    obtain rfl : Error.unreadable fault (c.resolve name) = e := by injection h
    exact .unreadable hread

theorem compileFile_eq_ok_iff {path : String} : c.compileFile files path = .ok r ↔
    ∃ octets, files.read path = .ok octets ∧ c.compileOctets octets = .ok r := by
  simp only [Compiler.compileFile]
  cases files.read path with
  | error fault => simp
  | ok octets => simp

/-- A partial can be loaded or it cannot. -/
theorem exists_loaded_or_unloadable (files : Files) (c : Compiler) (name : String) :
    (∃ r, Loaded files c name (c.resolve name) r) ∨ ∃ e, Unloadable files c name e := by
  cases h : c.compileFile files (c.resolve name) with
  | error e => exact .inr ⟨e, unloadable_of_compileFile h⟩
  | ok r => exact .inl ⟨r, rfl, compileFile_eq_ok_iff.1 h⟩

end

/-! ## getting hold of a partial -/

section
variable {files : Files} {c : Compiler} {name : String} {cache : Cache} {r : Renderer}

theorem Compiler.liveCache_of_cached (hc : c.cached = true) (cache : Cache) :
    c.liveCache (some cache) = some cache := by
  rw [Compiler.liveCache, if_pos hc]
  rfl

/-- A compiler that uses no cache compiles every partial and leaves the cache alone. -/
theorem Compiler.fetch_of_not_cached {κ : Type} [TemplateCache κ] (hc : c.cached = false)
    (cache : Option κ) :
    c.fetch files name cache = (c.compileFile files (c.resolve name), cache) := by
  have hself : c.uncached = c := by
    obtain ⟨config, engine, cached⟩ := c
    exact congrArg (Compiler.mk config engine) hc.symm
  have hnone : c.liveCache cache = none := by
    rw [Compiler.liveCache, hc]
    rfl
  rw [Compiler.fetch_of_none hnone, hself]

/-- A partial that the cache has is taken from there, whatever the files are. -/
theorem Compiler.fetch_of_found (hc : c.cached = true) {after : Cache}
    (h : TemplateCache.lookup name cache = (some r, after)) (files : Files) :
    c.fetch files name (some cache) = (.ok r, some after) :=
  Compiler.fetch_of_hit (Compiler.liveCache_of_cached hc cache) h

/-- A partial that is loaded is stored with the path of its file. -/
theorem Compiler.fetch_of_loaded (hc : c.cached = true)
    (h : (TemplateCache.lookup name cache).1 = none) (hr : Loaded files c name (c.resolve name) r) :
    c.fetch files name (some cache) =
      (.ok r, some (TemplateCache.store name (c.resolve name) r cache)) := by
  rw [Compiler.fetch_of_miss (Compiler.liveCache_of_cached hc cache) (Cache.lookup_of_missing h),
    compileFile_eq_ok_iff.2 hr.compiled]
  rfl

/-- A partial that cannot be loaded leaves the cache as it was. -/
theorem Compiler.fetch_of_unloadable (hc : c.cached = true)
    (h : (TemplateCache.lookup name cache).1 = none) {e : Error} (he : Unloadable files c name e) :
    c.fetch files name (some cache) = (.error e, some cache) := by
  rw [Compiler.fetch_of_miss (Compiler.liveCache_of_cached hc cache) (Cache.lookup_of_missing h),
    he.compileFile]
  rfl

/-- A file that is its own output can be loaded. -/
theorem loaded_fixed {source : String}
    (hread : files.read (c.resolve name) = .ok (Text.utf8 source))
    (hfixed : Program.build? c.config.delimiters source = none) :
    Loaded files c name (c.resolve name) (.fixed source) := by
  refine ⟨rfl, _, hread, ?_⟩
  rw [Compiler.compileOctets, Text.ofUtf8?_utf8]
  simp only [Compiler.compile, hfixed]

/-- A partial that is its own output is rendered and stored, if the cache misses it. -/
theorem includePartial_fixed {source : String} (hc : c.cached = true)
    (hmissing : (TemplateCache.lookup name cache).1 = none)
    (hr : Loaded files c name (c.resolve name) (.fixed source)) (depth : Nat) (data : Json) :
    includePartial files (depth + 1) c name data (some cache) =
      (.done source, some (TemplateCache.store name (c.resolve name) (.fixed source) cache)) := by
  rw [includePartial, Compiler.fetch_of_loaded hc hmissing hr]
  rfl

end

/-! ## caches that keep everything -/

namespace MemoryCache

/-- What is stored is found under its name, and all else as before. -/
theorem lookup_entries_store (name path : String) (r : Renderer) (memory : MemoryCache)
    (other : String) : (memory.store name path r).entries.lookup other =
      if other = name then some (path, r) else memory.entries.lookup other := by
  rw [MemoryCache.store, List.lookup_cons]
  by_cases h : other = name
  · simp [h]
  · rw [if_neg h, beq_false_of_ne h]
    dsimp only
    induction memory.entries with
    | nil => rfl
    | cons entry entries ih =>
      by_cases hname : entry.1 = name
      · rw [List.filter_cons_of_neg (by simpa using hname), ih, List.lookup_cons,
          beq_false_of_ne (fun heq => h (heq.trans hname))]
      · rw [List.filter_cons_of_pos (by simpa using hname), List.lookup_cons, List.lookup_cons, ih]

/-- Nothing in the cache is lost or replaced, and all that is new was loaded by a compiler that
the relation `P` has for its name. -/
structure Grows (files : Files) (P : Compiler → String → Prop) (before after : MemoryCache) :
    Prop where
  kept : ∀ name entry, before.entries.lookup name = some entry →
    after.entries.lookup name = some entry
  loaded : ∀ name path r, before.entries.lookup name = none →
    after.entries.lookup name = some (path, r) → ∃ c, P c name ∧ c.cached = true ∧
      Loaded files c name path r

variable {files : Files} {P Q : Compiler → String → Prop} {before after : MemoryCache}

/-- A cache that stays as it is has grown by nothing. -/
theorem Grows.refl (files : Files) (P : Compiler → String → Prop) (memory : MemoryCache) :
    Grows files P memory memory := by
  refine ⟨fun _ _ h => h, fun name path r hnone hsome => ?_⟩
  rw [hnone] at hsome
  cases hsome

/-- The compilers may be among more. -/
theorem Grows.imp (h : Grows files P before after)
    (hPQ : ∀ c name, P c name → c.cached = true → Q c name) : Grows files Q before after := by
  refine ⟨h.kept, fun name path r hbefore hafter => ?_⟩
  obtain ⟨c, hP, hc, hr⟩ := h.loaded name path r hbefore hafter
  exact ⟨c, hPQ c name hP hc, hc, hr⟩

/-- Storing what is missing makes a cache grow. -/
theorem Grows.store (h : Grows files P before after) {name path : String} {r : Renderer}
    (hnone : after.entries.lookup name = none) {c : Compiler} (hP : P c name)
    (hc : c.cached = true) (hr : Loaded files c name path r) :
    Grows files P before (after.store name path r) := by
  constructor
  · intro other entry hentry
    have hafter := h.kept other entry hentry
    have hne : other ≠ name := by
      intro heq
      rw [heq, hnone] at hafter
      cases hafter
    rw [lookup_entries_store, if_neg hne, hafter]
  · intro other path' r' hbefore hafter
    rw [lookup_entries_store] at hafter
    split at hafter
    · next heq =>
      subst heq
      obtain ⟨rfl, rfl⟩ := Prod.mk.inj (Option.some.inj hafter)
      exact ⟨c, hP, hc, hr⟩
    · exact h.loaded other path' r' hbefore hafter

end MemoryCache

/-! ## inclusions and who makes them -/

section
variable {κ : Type} [TemplateCache κ]

/-- Inclusions that were begun, the last one in front: the compiler of the template that
includes, and the name of the partial. -/
abbrev Notes := List (Compiler × String)

/-- Renders a partial as `includePartial` does, and writes down this inclusion and all those
that it leads to. -/
def includeNoted (files : Files) :
    Nat → Compiler → String → Json → Option κ × Notes → Outcome String × Option κ × Notes
  | 0, _, _, _, s => (.tooDeep, s)
  | depth + 1, c, name, data, (cache, notes) =>
    let (compiled, cache) := c.fetch files name cache
    runCompiled (includeNoted files depth) compiled data (cache, (c, name) :: notes)

/-- Writing inclusions down changes nothing. -/
theorem includeNoted_matches (files : Files) (depth : Nat) (c : Compiler) (name : String)
    (data : Json) (cache : Option κ) (notes : Notes) :
    Matches (fun s cache => s.1 = cache) (includeNoted files depth c name data (cache, notes))
      (includePartial files depth c name data cache) := by
  induction depth generalizing c name data cache notes with
  | zero => exact ⟨rfl, rfl⟩
  | succ depth ih =>
    rw [includeNoted, includePartial]
    refine runCompiled_matches_self (fun d name data s cache hs => ?_) _ data rfl
    obtain rfl : s.1 = cache := hs
    exact ih d name data s.1 s.2

end

/-! ## including partials -/

/-- The cache has grown from `start` on by inclusions that are written down. The compilers of
these, and those that the renderers in the cache keep, are among `P`. -/
structure Grown (files : Files) (P : Compiler → Prop) (start memory : MemoryCache)
    (notes : Notes) : Prop where
  grows : start.Grows files (fun c name => (c, name) ∈ notes) memory
  runs : ∀ entry ∈ memory.entries, entry.2.2.Runs P
  noted : ∀ note ∈ notes, P note.1

/-- The state of inclusions has such a cache. -/
def HasGrown (files : Files) (P : Compiler → Prop) (start : MemoryCache)
    (s : Option Cache × Notes) : Prop :=
  ∃ memory, s.1 = some (.memory memory) ∧ Grown files P start memory s.2

section
variable {files : Files} {P : Compiler → Prop} {origin memory : MemoryCache} {notes : Notes}
  {s : Option Cache × Notes} {c : Compiler} {r : Renderer} {name : String}

/-- At first there are only the renderers that the cache has. -/
theorem Grown.start (h : ∀ entry ∈ origin.entries, entry.2.2.Runs P) :
    Grown files P origin origin [] :=
  ⟨.refl files _ origin, h, List.forall_mem_nil _⟩

/-- One more inclusion is written down. -/
theorem Grown.note (h : Grown files P origin memory notes) (hP : P c) (name : String) :
    Grown files P origin memory ((c, name) :: notes) where
  grows := h.grows.imp fun _ _ hnoted _ => List.mem_cons_of_mem _ hnoted
  runs := h.runs
  noted := List.forall_mem_cons.2 ⟨hP, h.noted⟩

/-- A renderer that is stored is one more that keeps its compiler. -/
theorem runs_store {path : String} (hr : r.Runs P)
    (h : ∀ entry ∈ memory.entries, entry.2.2.Runs P) :
    ∀ entry ∈ (memory.store name path r).entries, entry.2.2.Runs P :=
  List.forall_mem_cons.2 ⟨hr, fun entry hentry => h entry (List.mem_filter.1 hentry).1⟩

/-- What is loaded by an inclusion that is written down may be stored. -/
theorem Grown.store (h : Grown files P origin memory notes)
    (hmissing : memory.entries.lookup name = none) (hnoted : (c, name) ∈ notes)
    (hc : c.cached = true) {path : String} (hr : Loaded files c name path r) (hruns : r.Runs P) :
    Grown files P origin (memory.store name path r) notes where
  grows := h.grows.store hmissing hnoted hc hr
  runs := runs_store hruns h.runs
  noted := h.noted

/-- What a compiler loads keeps it. -/
theorem Loaded.runs {path : String} (hr : Loaded files c name path r) (hP : P c) : r.Runs P :=
  (Compiler.runs_of_compileFile (compileFile_eq_ok_iff.2 hr.compiled)).imp fun _ hd => hd ▸ hP

/-- Getting hold of a partial makes the cache grow, and the partial keeps one of the
compilers as well. -/
theorem HasGrown.fetch (h : HasGrown files P origin s) (hP : P c) (name : String) :
    HasGrown files P origin ((c.fetch files name s.1).2, (c, name) :: s.2) ∧
      ∀ r, (c.fetch files name s.1).1 = .ok r → r.Runs P := by
  obtain ⟨memory, hs, hgrown⟩ := h
  replace hgrown := hgrown.note hP name
  rw [hs]
  cases hc : c.cached with
  | false =>
    rw [Compiler.fetch_of_not_cached hc]
    refine ⟨⟨memory, rfl, hgrown⟩, fun r hr => ?_⟩
    exact Loaded.runs ⟨rfl, compileFile_eq_ok_iff.1 hr⟩ hP
  | true =>
    cases hfound : memory.entries.lookup name with
    | some entry =>
      have hlookup : TemplateCache.lookup name (Cache.memory memory) =
          (some entry.2, .memory memory) := by
        simp only [TemplateCache.lookup, MemoryCache.lookup, hfound, Option.map_some]
      rw [Compiler.fetch_of_found hc hlookup]
      refine ⟨⟨memory, rfl, hgrown⟩, fun r hr => ?_⟩
      obtain rfl := Except.ok.inj hr
      exact hgrown.runs (name, entry) (mem_of_lookup hfound)
    | none =>
      have hmissing : (TemplateCache.lookup name (Cache.memory memory)).1 = none := by
        simp only [TemplateCache.lookup, MemoryCache.lookup, hfound, Option.map_none]
      rcases exists_loaded_or_unloadable files c name with ⟨r, hr⟩ | ⟨e, he⟩
      · rw [Compiler.fetch_of_loaded hc hmissing hr]
        refine ⟨⟨_, rfl, hgrown.store hfound List.mem_cons_self hc hr (hr.runs hP)⟩,
          fun r' hr' => ?_⟩
        obtain rfl := Except.ok.inj hr'
        exact hr.runs hP
      · rw [Compiler.fetch_of_unloadable hc hmissing he]
        exact ⟨⟨memory, rfl, hgrown⟩, nofun⟩

/-- Including a partial makes the cache grow, however it ends. -/
theorem includeNoted_grown (depth : Nat) (hP : P c) (name : String) (data : Json)
    (h : HasGrown files P origin s) :
    HasGrown files P origin (includeNoted files depth c name data s).2 := by
  induction depth generalizing c name data s with
  | zero => exact h
  | succ depth ih =>
    obtain ⟨hafter, hruns⟩ := h.fetch hP name
    rw [includeNoted]
    exact runCompiled_keeps (fun d hd name data s hs => ih hd name data hs) hruns data hafter

/-- So does running a renderer. -/
theorem HasGrown.runWith (h : HasGrown files P origin s) (depth : Nat) (hr : r.Runs P)
    (data : Json) : HasGrown files P origin (r.runWith (includeNoted files depth) data s).2 := by
  have hcompiled : ∀ r', (Except.ok r : Except Error Renderer) = .ok r' → r'.Runs P := by
    intro r' heq
    exact Except.ok.inj heq ▸ hr
  exact runCompiled_keeps (fun d hd name data s hs => includeNoted_grown depth hd name data hs)
    hcompiled data h

end

/-! ## templates that only include -/

/-- The script of a template that only includes a partial, with its own data. -/
def includerScript (name : String) : Script.Tree where
  body := [.emit 0]
  outputs := [.value (Script.includeCall name "z") false .none]

section
variable {part code : String} {c : Compiler}

/-- Such a script is nothing but the partial. -/
theorem run_includerScript (name : String) (data : Json) :
    (includerScript name).run "z" data = Rendering.includeText name data := by
  refine congrArg (Rendering.request name data) (funext fun reply => ?_)
  cases reply with
  | error e => rfl
  | ok text => exact congrArg Rendering.done String.empty_append

/-- A template with only the marker of an inclusion has such a script. -/
theorem compile_includer {source : String} (hengine : c.engine = Script.engine)
    (hname : c.config.effectiveDataName = "z")
    (hbuild : Program.build? c.config.delimiters source = some [.value code false .none])
    (hcode : Script.parseValue code = .ok (Script.includeCall part "z")) :
    c.compile source = .ok (.program ((includerScript part).run "z") c) := by
  have hscript : Script.ofProgram [.value code false .none] = .ok (includerScript part) :=
    Script.ofProgram_eq_ok_iff.2 ⟨_, .value hcode .nil, .next .emit .done⟩
  rw [← hname]
  exact Compiler.compile_of_ofProgram hengine hbuild hscript

/-- A cache that holds only the renderer of such a template. -/
def withIncluder (name path part : String) (d : Compiler) : MemoryCache :=
  ⟨[(name, path, .program ((includerScript part).run "z") d)]⟩

/-- Where the cache has such a template, including it gives what the compiler that it keeps
makes of the partial. -/
theorem includePartial_includer (files : Files) (depth : Nat) (hc : c.cached = true)
    (name path part : String) (d : Compiler) (data : Json) :
    includePartial files (depth + 1) c name data
        (some (Cache.memory (withIncluder name path part d))) =
      includePartial files depth d part data
        (some (Cache.memory (withIncluder name path part d))) := by
  have hfound : TemplateCache.lookup name (Cache.memory (withIncluder name path part d)) =
      (some (.program ((includerScript part).run "z") d),
        .memory (withIncluder name path part d)) := by
    simp [TemplateCache.lookup, MemoryCache.lookup, withIncluder]
  rw [includePartial, Compiler.fetch_of_found hc hfound]
  dsimp only [runCompiled, Renderer.runWith]
  rw [run_includerScript, Rendering.answer_includeText]

end

/-! ## what including a partial does -/

/-- The compilers that come into use when `c` includes partials: `c` itself, and those that
the renderers in the cache keep. -/
inductive Reaches (c : Compiler) (memory : MemoryCache) : Compiler → Prop where
  | own : Reaches c memory c
  | kept {name path : String} {run : Executable} {d : Compiler} :
    (name, path, .program run d) ∈ memory.entries → Reaches c memory d

/-- The compilers of cached renderers come into use. -/
theorem runs_reaches {c : Compiler} {memory : MemoryCache} :
    ∀ entry ∈ memory.entries, entry.2.2.Runs (Reaches c memory) := by
  intro entry hentry
  obtain ⟨name, path, r⟩ := entry
  cases r with
  | fixed source => trivial
  | program run d => exact .kept hentry

/-- A compiler that uses a cache is known by its configuration and its engine. -/
theorem Compiler.eq_of_uncached {c d : Compiler} (h : d.uncached = c.uncached)
    (hc : c.cached = true) (hd : d.cached = true) : d = c := by
  obtain ⟨config, engine, cached⟩ := c
  obtain ⟨config', engine', cached'⟩ := d
  obtain ⟨rfl, rfl⟩ : config' = config ∧ engine' = engine := by
    injection h with h₁ h₂
    exact ⟨h₁, h₂⟩
  exact congrArg (Compiler.mk config' engine') (hd.trans hc.symm)

/-- Whatever a renderer is, running it loses nothing that a cache of this kind holds. -/
theorem Renderer.runWith_keeps_entries (files : Files) (depth : Nat) (r : Renderer) (data : Json)
    (memory : MemoryCache) : ∃ after,
      (r.runWith (includePartial files depth) data (some (Cache.memory memory))).2 =
          some (.memory after) ∧
        ∀ name entry, memory.entries.lookup name = some entry →
          after.entries.lookup name = some entry := by
  have hany : ∀ r : Renderer, r.Runs fun _ => True := by
    intro r
    cases r <;> trivial
  have hstart : HasGrown files (fun _ => True) memory (some (.memory memory), []) :=
    ⟨memory, rfl, .start fun entry _ => hany entry.2.2⟩
  obtain ⟨after, hafter, hgrown⟩ := hstart.runWith depth (hany r) data
  have hmatches : Matches (fun s cache => s.1 = cache)
      (r.runWith (includeNoted files depth) data (some (Cache.memory memory), []))
      (r.runWith (includePartial files depth) data (some (Cache.memory memory))) := by
    refine runCompiled_matches_self (fun d name data s cache hs => ?_) (.ok r) data rfl
    obtain rfl : s.1 = cache := hs
    exact includeNoted_matches files depth d name data s.1 s.2
  exact ⟨after, hmatches.2.symm.trans hafter, hgrown.grows.kept⟩

/-- **What including a partial does to the cache.** A cache that keeps everything only
grows, whatever it held, however the inclusion ends and whatever it includes in turn: nothing
in it is lost or replaced, and all that is new was loaded from the file that the compiler of
some inclusion, begun on the way, resolves the name to. That compiler is `c` itself or is kept
by a renderer that the cache held, so it is `c` if these were all compiled by `c`.

If the cache does not have the partial and the partial cannot be loaded, either kind of cache
is exactly as before. If it can be loaded, it is stored before it runs, and a cache that keeps
everything still has it in the end. If the cache has it, getting hold of it is the same
whatever the files are, and all that follows is the run of what was found. -/
theorem includePartial_frame (files : Files) (depth : Nat) (c : Compiler) (name : String)
    (data : Json) :
    (∀ memory : MemoryCache, ∃ outcome after notes,
      includePartial files depth c name data (some (Cache.memory memory)) =
          (outcome, some (.memory after)) ∧
        includeNoted files depth c name data (some (Cache.memory memory), []) =
          (outcome, some (.memory after), notes) ∧
        memory.Grows files (fun d n => (d, n) ∈ notes) after ∧
        (∀ note ∈ notes, Reaches c memory note.1) ∧
        (c.cached = true → (∀ entry ∈ memory.entries, entry.2.2.Keeps c) →
          memory.Grows files (fun d _ => d = c) after)) ∧
    (c.cached = true → ∀ cache : Cache, (TemplateCache.lookup name cache).1 = none →
      (∀ e, Unloadable files c name e →
        includePartial files (depth + 1) c name data (some cache) = (.fail e, some cache)) ∧
      ∀ r, Loaded files c name (c.resolve name) r →
        includePartial files (depth + 1) c name data (some cache) =
          r.runWith (includePartial files depth) data
            (some (TemplateCache.store name (c.resolve name) r cache)) ∧
        ∀ memory, cache = .memory memory → ∃ after,
          (includePartial files (depth + 1) c name data (some cache)).2 = some (.memory after) ∧
            after.entries.lookup name = some (c.resolve name, r)) ∧
    (c.cached = true → ∀ (cache after : Cache) (r : Renderer),
      TemplateCache.lookup name cache = (some r, after) →
        (∀ files, c.fetch files name (some cache) = (.ok r, some after)) ∧
        includePartial files (depth + 1) c name data (some cache) =
          r.runWith (includePartial files depth) data (some after)) := by
  refine ⟨fun memory => ?_, fun hc cache hmissing => ⟨fun e he => ?_, fun r hr => ?_⟩,
    fun hc cache after r hfound => ?_⟩
  · have hstart : HasGrown files (Reaches c memory) memory (some (.memory memory), []) :=
      ⟨memory, rfl, .start runs_reaches⟩
    obtain ⟨houtcome, hcache⟩ :=
      includeNoted_matches files depth c name data (some (Cache.memory memory)) []
    obtain ⟨after, hafter, hgrown⟩ := includeNoted_grown depth .own name data hstart
    refine ⟨_, after, _, Prod.ext houtcome.symm (hcache.symm.trans hafter),
      Prod.ext rfl (Prod.ext hafter rfl), hgrown.grows, hgrown.noted, fun hc hkeeps => ?_⟩
    refine hgrown.grows.imp (Q := fun d _ => d = c) fun d n hnoted hd => ?_
    cases hgrown.noted _ hnoted with
    | own => rfl
    | kept hentry => exact Compiler.eq_of_uncached (hkeeps _ hentry) hc hd
  · rw [includePartial, Compiler.fetch_of_unloadable hc hmissing he]
    rfl
  · have hrun : includePartial files (depth + 1) c name data (some cache) =
        r.runWith (includePartial files depth) data
          (some (TemplateCache.store name (c.resolve name) r cache)) := by
      rw [includePartial, Compiler.fetch_of_loaded hc hmissing hr]
      rfl
    refine ⟨hrun, fun memory hmemory => ?_⟩
    subst hmemory
    obtain ⟨after, hafter, hkept⟩ :=
      r.runWith_keeps_entries files depth data (memory.store name (c.resolve name) r)
    refine ⟨after, hrun ▸ hafter, hkept name _ ?_⟩
    rw [MemoryCache.lookup_entries_store, if_pos rfl]
  · have hfetch := Compiler.fetch_of_found hc hfound
    refine ⟨hfetch, ?_⟩
    rw [includePartial, hfetch]
    rfl

/-- A partial in the cache whose file is gone, one that is loaded, and one that is no text. -/
theorem includePartial_frame_page : ∃ (files : Files) (c : Compiler) (memory : MemoryCache)
    (a : Renderer), c.cached = true ∧ memory.entries.lookup "a" = some ("/t/a.ztpl", a) ∧
      (∃ after, (includePartial files 2 c "a" .null (some (Cache.memory memory))).2 =
          some (.memory after) ∧ after.entries.lookup "a" = some ("/t/a.ztpl", a) ∧
        memory.Grows files (fun d _ => d = c) after) ∧
      (∀ files, c.fetch files "a" (some (Cache.memory memory)) =
        (.ok a, some (.memory memory))) ∧
      (∃ after, includePartial files 1 c "b" .null (some (Cache.memory memory)) =
          (.done "B", some (.memory after)) ∧
        after.entries.lookup "b" = some (c.resolve "b", .fixed "B")) ∧
      includePartial files 1 c "d" .null (some (Cache.memory memory)) =
        (.fail .notText, some (.memory memory)) := by
  let files : Files :=
    ⟨"/t", [(["b.ztpl"], .file (Text.utf8 "B")), (["d.ztpl"], .file [0xff])]⟩
  let c : Compiler := ⟨Config.standard.set .basePath "/t", Script.engine, true⟩
  let a : Renderer := .program ((includerScript "b").run "z") c
  let memory : MemoryCache := withIncluder "a" "/t/a.ztpl" "b" c
  have hkeeps : ∀ entry ∈ memory.entries, entry.2.2.Keeps c := by
    intro entry hentry
    obtain rfl := List.mem_singleton.1 hentry
    rfl
  have hb : Loaded files c "b" (c.resolve "b") (.fixed "B") :=
    loaded_fixed (by decide +kernel) (by decide +kernel)
  have hread : files.read (c.resolve "d") = .ok [0xff] := by decide +kernel
  have hd : Unloadable files c "d" .notText := .notText hread (by decide +kernel)
  obtain ⟨hgrows, -, -⟩ := includePartial_frame files 2 c "a" .null
  obtain ⟨-, -, hhit⟩ := includePartial_frame files 0 c "a" .null
  obtain ⟨-, hmiss, -⟩ := includePartial_frame files 0 c "b" .null
  obtain ⟨-, hfail, -⟩ := includePartial_frame files 0 c "d" .null
  obtain ⟨outcome, after, notes, hrun, -, hall, -, hown⟩ := hgrows memory
  obtain ⟨hb, hstays⟩ := (hmiss rfl (.memory memory) rfl).2 _ hb
  obtain ⟨after', hafter', hlookup⟩ := hstays memory rfl
  refine ⟨files, c, memory, a, rfl, rfl, ⟨after, by rw [hrun], hall.kept "a" _ rfl, hown rfl hkeeps⟩,
    (hhit rfl (.memory memory) (.memory memory) a rfl).1, ⟨after', ?_, hlookup⟩,
    (hfail rfl (.memory memory) rfl).1 _ hd⟩
  rw [hb] at hafter' ⊢
  exact Prod.ext rfl hafter'

/-- A renderer that is found goes its own way. If two configurations share a cache, one of
them finds what the other compiled: a partial that this includes in turn is looked for where
the other one has its partials, and stored for both. And what is found may include the very
file of its name under another name, so that it is read. -/
theorem found_renderer_includes_by_its_own_compiler :
    (let c : Compiler := ⟨Config.standard.set .basePath "/t/c", Script.engine, true⟩
    let d : Compiler := ⟨Config.standard.set .basePath "/t/d", Script.engine, true⟩
    let files : Files := ⟨"/t", [(["c"], .directory), (["c", "part.ztpl"], .file (Text.utf8 "C")),
      (["d"], .directory), (["d", "part.ztpl"], .file (Text.utf8 "D"))]⟩
    ∃ (page : Renderer) (before after : MemoryCache),
      d.compile "[[- include('part', z) ]]" = .ok page ∧
        before = ⟨[("page", d.resolve "page", page)]⟩ ∧
        includePartial files 2 c "page" .null (some (Cache.memory before)) =
          (.done "D", some (.memory after)) ∧
        before.entries.lookup "part" = none ∧
        after.entries.lookup "part" = some ("/t/d/part.ztpl", .fixed "D") ∧
        Loaded files c "part" "/t/c/part.ztpl" (.fixed "C") ∧
        ¬ before.Grows files (fun e _ => e = c) after) ∧
    let c : Compiler := ⟨Config.standard.set .basePath "/t", Script.engine, true⟩
    ∃ (a : Renderer) (cache : Cache),
      c.compile "[[- include('./a', z) ]]" = .ok a ∧
        TemplateCache.lookup "a" cache = (some a, cache) ∧
        (includePartial ⟨"/t", [(["a.ztpl"], .file (Text.utf8 "A"))]⟩ 2 c "a" .null
          (some cache)).1 = .done "A" ∧
        (includePartial ⟨"/t", []⟩ 2 c "a" .null (some cache)).1 =
          .fail (.unreadable .notFound "/t/./a.ztpl") := by
  constructor
  · intro c d files
    have hpart : Script.parseValue " include('part', z) " =
        .ok (Script.includeCall "part" "z") :=
      Script.parseValue_of_print rfl (by decide +kernel)
    have hpage : d.compile "[[- include('part', z) ]]" =
        .ok (.program ((includerScript "part").run "z") d) :=
      compile_includer rfl (by decide) (by decide +kernel) hpart
    have hown : Loaded files c "part" (c.resolve "part") (.fixed "C") :=
      loaded_fixed (by decide +kernel) (by decide +kernel)
    have hother : Loaded files d "part" (d.resolve "part") (.fixed "D") :=
      loaded_fixed (by decide +kernel) (by decide +kernel)
    have hc : c.resolve "part" = "/t/c/part.ztpl" := by decide +kernel
    have hd : d.resolve "part" = "/t/d/part.ztpl" := by decide +kernel
    have hrun := includePartial_includer files 1 (c := c) rfl "page" (d.resolve "page") "part" d
      .null
    have hmissing : (TemplateCache.lookup "part"
        (Cache.memory (withIncluder "page" (d.resolve "page") "part" d))).1 = none := rfl
    rw [includePartial_fixed (c := d) rfl hmissing hother] at hrun
    rw [hc] at hown
    refine ⟨_, withIncluder "page" (d.resolve "page") "part" d, _, hpage, rfl, hrun, rfl, ?_, hown,
      fun hgrows => ?_⟩
    · rw [MemoryCache.lookup_entries_store, if_pos rfl, hd]
    · obtain ⟨e, rfl, -, hwrong⟩ := hgrows.loaded "part" (d.resolve "part") (.fixed "D") rfl
        (by rw [MemoryCache.lookup_entries_store, if_pos rfl])
      exact absurd hwrong.path_eq (by rw [hc, hd]; decide)
  · intro c
    have hpart : Script.parseValue " include('./a', z) " = .ok (Script.includeCall "./a" "z") :=
      Script.parseValue_of_print rfl (by decide +kernel)
    have ha : c.compile "[[- include('./a', z) ]]" =
        .ok (.program ((includerScript "./a").run "z") c) :=
      compile_includer rfl (by decide) (by decide +kernel) hpart
    have hmissing : (TemplateCache.lookup "./a"
        (Cache.memory (withIncluder "a" "/t/a.ztpl" "./a" c))).1 = none := rfl
    refine ⟨_, .memory (withIncluder "a" "/t/a.ztpl" "./a" c), ha, rfl, ?_, ?_⟩
    · have hown : Loaded ⟨"/t", [(["a.ztpl"], .file (Text.utf8 "A"))]⟩ c "./a" (c.resolve "./a")
          (.fixed "A") := loaded_fixed (by decide +kernel) (by decide +kernel)
      rw [includePartial_includer _ 1 rfl, includePartial_fixed rfl hmissing hown]
    · have hunloadable : Unloadable ⟨"/t", []⟩ c "./a" (.unreadable .notFound (c.resolve "./a")) :=
        .unreadable (by decide +kernel)
      have hresolve : c.resolve "./a" = "/t/./a.ztpl" := by decide +kernel
      rw [hresolve] at hunloadable
      rw [includePartial_includer _ 1 rfl, includePartial,
        Compiler.fetch_of_unloadable rfl hmissing hunloadable]
      rfl

end Stencil
