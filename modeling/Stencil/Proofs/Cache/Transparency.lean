import Stencil.Proofs.Answering
import Stencil.Proofs.Cache.Honest

/-!
# Stencil.Proofs.Cache.Transparency

A cache of partials changes no result. The files and the configuration stay as
they are; templates and partials are rendered one after the other, in any order
and with any data, and they all share one cache that is empty at first. Then
every result is what the same rendering gives with no cache at all
(`runAll_eq_map_alone`).

1. A fresh renderer and a cached one differ only in whether the compiler that
   they keep for their own partials uses a cache. `Genuine` says so of one
   renderer and one name, and `Sound` of all that a cache has been given.
2. Getting hold of a partial keeps the cache sound and gives what compiling
   without a cache gives (`fetch_sound`).
3. So does rendering a partial, by induction on how deeply partials are nested
   (`includePartial_matches`): a cached renderer asks the same cache again while
   it runs.

How deeply partials may be nested is bounded, and a bound that is not met leaves
no trace: `includePartial_agrees`.
-/

namespace Stencil

open Rendering (Outcome Matches Agrees)

variable {κ : Type} [TemplateCache κ]

/-! ## compiling without a cache -/

/-- Giving up the cache changes nothing about compiling but what the renderer remembers. -/
theorem Compiler.compile_uncached (c : Compiler) (source : String) :
    c.uncached.compile source = (c.compile source).map Renderer.uncached := by
  simp only [Compiler.compile, Compiler.uncached]
  cases Program.build? c.config.delimiters source with
  | none => rfl
  | some program =>
    cases h : c.engine program c.config.effectiveDataName with
    | error e => simp [h, bind, Except.bind, Except.map]
    | ok run => simp [h, bind, Except.bind, Except.map, pure, Except.pure, Renderer.uncached,
        Compiler.uncached]

/-- The same holds of octets. -/
theorem Compiler.compileOctets_uncached (c : Compiler) (octets : List UInt8) :
    c.uncached.compileOctets octets = (c.compileOctets octets).map Renderer.uncached := by
  simp only [Compiler.compileOctets]
  cases Text.ofUtf8? octets with
  | none => rfl
  | some source => exact c.compile_uncached source

/-- The same holds of a file. -/
theorem Compiler.compileFile_uncached (c : Compiler) (files : Files) (path : String) :
    c.uncached.compileFile files path = (c.compileFile files path).map Renderer.uncached := by
  simp only [Compiler.compileFile]
  cases files.read path with
  | error fault => rfl
  | ok octets => exact c.compileOctets_uncached octets

/-- A name stands for the same path. -/
theorem Compiler.resolve_uncached (c : Compiler) (name : String) :
    c.uncached.resolve name = c.resolve name := rfl

/-- What a compiler makes keeps it. -/
theorem Compiler.runs_of_compile {c : Compiler} {source : String} {r : Renderer}
    (h : c.compile source = .ok r) : r.Runs (· = c) := by
  simp only [Compiler.compile] at h
  cases hp : Program.build? c.config.delimiters source with
  | none =>
    rw [hp] at h
    obtain rfl : Renderer.fixed source = r := by injection h
    trivial
  | some program =>
    rw [hp] at h
    cases he : c.engine program c.config.effectiveDataName with
    | error e => simp [he, bind, Except.bind] at h
    | ok run =>
      obtain rfl : Renderer.program run c = r := by
        simpa [he, bind, Except.bind, pure, Except.pure] using h
      rfl

/-- What is compiled runs with the compiler that made it. -/
theorem Compiler.runs_of_compileOctets {c : Compiler} {octets : List UInt8} {r : Renderer}
    (h : c.compileOctets octets = .ok r) : r.Runs (· = c) := by
  simp only [Compiler.compileOctets] at h
  split at h
  · exact Compiler.runs_of_compile h
  · cases h

/-- So does what is compiled from a file. -/
theorem Compiler.runs_of_compileFile {c : Compiler} {files : Files} {path : String} {r : Renderer}
    (h : c.compileFile files path = .ok r) : r.Runs (· = c) := by
  simp only [Compiler.compileFile] at h
  split at h
  · exact Compiler.runs_of_compileOctets h
  · cases h

/-! ## sound caches -/

/-- What a compiler makes of the partial `name` when it uses no cache. -/
def Compiler.fresh (files : Files) (c : Compiler) (name : String) : Except Error Renderer :=
  c.uncached.compileFile files (c.resolve name)

/-- What a name gives freshly compiled does not depend on the cache. -/
theorem Compiler.fresh_congr {c d : Compiler} (h : c.uncached = d.uncached) (files : Files)
    (name : String) : c.fresh files name = d.fresh files name := by
  rw [Compiler.fresh, ← Compiler.resolve_uncached, h]
  rfl

/-- A renderer is the partial `name`, but for what its own partials do with a
cache. -/
def Genuine (files : Files) (c : Compiler) (name : String) (r : Renderer) : Prop :=
  c.fresh files name = .ok r.uncached

/-- A cache, if it is still there, was given nothing but partials. -/
def Sound (files : Files) (c : Compiler) (start : κ) (cache : Option κ) : Prop :=
  ∀ live, cache = some live → ∃ log, TemplateCache.Reached start live log ∧
    ∀ entry ∈ log, Genuine files c entry.1 entry.2

section
variable {files : Files} {c d : Compiler} {start : κ}

/-- A cache that was given nothing is sound. -/
theorem sound_start : Sound files c start (some start) := by
  rintro live h
  obtain rfl : start = live := by injection h
  exact ⟨[], .start, by simp⟩

/-- A sound cache is so for every compiler that differs in its use only. -/
theorem Sound.congr (h : c.uncached = d.uncached) {cache : Option κ}
    (hs : Sound files c start cache) : Sound files d start cache := by
  intro live hl
  obtain ⟨log, hr, hg⟩ := hs live hl
  refine ⟨log, hr, fun entry he => ?_⟩
  rw [Genuine, ← Compiler.fresh_congr h]
  exact hg entry he

/-- It stays sound where no cache is used. -/
theorem Sound.liveCache {cache : Option κ} (hs : Sound files c start cache) (d : Compiler) :
    Sound files c start (d.liveCache cache) := by
  intro live hl
  simp only [Compiler.liveCache] at hl
  split at hl
  · obtain ⟨k, hk, hup⟩ := Option.bind_eq_some_iff.1 hl
    obtain ⟨log, hr, hg⟩ := hs k hk
    exact ⟨log, .upgraded hr hup, hg⟩
  · cases hl

/-- It stays sound when something is looked up. -/
theorem Sound.lookup {live : κ} (hs : Sound files c start (some live)) (name : String) :
    Sound files c start (some (TemplateCache.lookup name live).2) := by
  intro live' hl
  obtain ⟨log, hr, hg⟩ := hs live rfl
  obtain rfl : (TemplateCache.lookup name live).2 = live' := by injection hl
  exact ⟨log, .lookedUp name hr, hg⟩

/-- A look-up in a sound cache finds the partial. -/
theorem Sound.genuine (honest : TemplateCache.Honest start) {live : κ}
    (hs : Sound files c start (some live)) {name : String} {r : Renderer}
    (h : (TemplateCache.lookup name live).1 = some r) : Genuine files c name r := by
  obtain ⟨log, hr, hg⟩ := hs live rfl
  exact hg (name, r) (honest live log name r hr h)

/-- It stays sound when what is compiled afresh is stored. -/
theorem Sound.storeCompiled {live : κ} (hs : Sound files c start (some live))
    {name path : String} {compiled : Except Error Renderer}
    (h : c.fresh files name = compiled.map Renderer.uncached) :
    Sound files c start (some (storeCompiled name path compiled live)) := by
  intro live' hl
  obtain ⟨log, hr, hg⟩ := hs live rfl
  cases compiled with
  | error e =>
    obtain rfl : live = live' := by injection hl
    exact ⟨log, hr, hg⟩
  | ok r =>
    obtain rfl : TemplateCache.store name path r live = live' := by injection hl
    refine ⟨_, .stored name path r hr, fun entry he => ?_⟩
    rcases List.mem_cons.1 he with rfl | he
    · exact h
    · exact hg entry he

/-- Getting hold of a partial gives what compiling it without a cache gives. -/
theorem fetch_sound (honest : TemplateCache.Honest start) {cache : Option κ}
    (hs : Sound files c start cache) (name : String) :
    (c.fetch files name cache).1.map Renderer.uncached = c.fresh files name ∧
      Sound files c start (c.fetch files name cache).2 := by
  have hlive := hs.liveCache c
  cases hl : c.liveCache cache with
  | none =>
    rw [Compiler.fetch_of_none hl]
    exact ⟨(c.uncached.compileFile_uncached files (c.resolve name)).symm, hs⟩
  | some live =>
    rw [hl] at hlive
    have hafter := hlive.lookup name
    rcases hf : TemplateCache.lookup name live with ⟨found, after⟩
    rw [hf] at hafter
    cases found with
    | some r =>
      rw [Compiler.fetch_of_hit hl hf]
      have hr : (TemplateCache.lookup name live).1 = some r := by rw [hf]
      exact ⟨(hlive.genuine honest hr).symm, hafter⟩
    | none =>
      rw [Compiler.fetch_of_miss hl hf]
      have hc : c.fresh files name =
          (c.compileFile files (c.resolve name)).map Renderer.uncached :=
        c.compileFile_uncached files (c.resolve name)
      exact ⟨hc.symm, hafter.storeCompiled hc⟩

end

/-! ## rendering partials -/

/-- What is fresh uses no cache already. -/
theorem Compiler.fresh_map_uncached (files : Files) (c : Compiler) (name : String) :
    (c.fresh files name).map Renderer.uncached = c.fresh files name :=
  (c.uncached.compileFile_uncached files (c.resolve name)).symm

/-- Partials end alike with a sound cache and with none. -/
theorem includePartial_matches {files : Files} {c : Compiler} {start : κ}
    (honest : TemplateCache.Honest start) (depth : Nat) {d e : Compiler}
    (hd : d.uncached = c.uncached) (he : e.uncached = c.uncached) (name : String) (data : Json)
    {cache : Option κ} {gone : Option Cache} (h : Sound files c start cache ∧ gone = none) :
    Matches (fun cache gone => Sound files c start cache ∧ gone = none)
      (includePartial files depth d name data cache)
      (includePartial files depth e name data gone) := by
  induction depth generalizing d e name data cache gone with
  | zero => exact ⟨rfl, h⟩
  | succ depth ih =>
    obtain ⟨hs, rfl⟩ := h
    obtain ⟨hfetch, hafter⟩ := fetch_sound honest (hs.congr hd.symm) name
    have hplain : e.fetch files name (none : Option Cache) = (e.fresh files name, none) :=
      Compiler.fetch_of_none (by simp [Compiler.liveCache])
    have hsame : (d.fetch files name cache).1.map Renderer.uncached =
        (e.fresh files name).map Renderer.uncached := by
      rw [hfetch, Compiler.fresh_map_uncached, Compiler.fresh_congr (hd.trans he.symm)]
    have hkeeps : ∀ r, e.fresh files name = .ok r → r.Keeps c := fun r hr =>
      (Compiler.runs_of_compileFile hr).keeps.congr he
    simp only [includePartial, hplain]
    exact runCompiled_matches (fun d e hd he name data s t h => ih hd he name data h) hsame hkeeps
      data ⟨hafter.congr hd, rfl⟩

/-- A bound on nesting that is not met leaves no trace. -/
theorem includePartial_agrees (files : Files) {depth more : Nat} (hle : depth ≤ more)
    (c : Compiler) :
    Agrees (includePartial (κ := κ) files more c) (includePartial files depth c) := by
  induction depth generalizing more c with
  | zero => exact fun _ _ _ h => absurd rfl h
  | succ depth ih =>
    intro name data cache h
    obtain ⟨more, rfl⟩ : ∃ n, more = n + 1 := ⟨more - 1, by omega⟩
    simp only [includePartial] at h ⊢
    exact runCompiled_agrees (fun d => ih (by omega) d) _ data _ h

/-! ## renderings that share a cache -/

/-- A rendering that is asked for, of a template or of a partial. Who renders it
may use the cache or not, since some renderers are made when it is gone. -/
inductive Use where
  | template (cached : Bool) (octets : List UInt8) (data : Json)
  | inclusion (cached : Bool) (name : String) (data : Json)

namespace Use

variable (files : Files) (depth : Nat) (c : Compiler)

/-- Renders what is asked for, with the configuration of `c`. -/
def run : Use → Option κ → Outcome String × Option κ
  | .template cached octets data, cache =>
    runCompiled (includePartial files depth)
      (({ c with cached } : Compiler).compileOctets octets) data cache
  | .inclusion cached name data, cache =>
    includePartial files depth { c with cached } name data cache

/-- The results of renderings that follow each other. -/
def runAll : List Use → Option κ → List (Outcome String)
  | [], _ => []
  | use :: uses, cache =>
    let (outcome, cache) := use.run files depth c cache
    outcome :: runAll uses cache

/-- The same rendering without a cache. -/
def uncached : Use → Use
  | .template _ octets data => .template false octets data
  | .inclusion _ name data => .inclusion false name data

/-- The result of a rendering when there is no cache at all. -/
def alone (use : Use) : Outcome String :=
  (use.uncached.run files depth c (none : Option Cache)).1

variable {files depth c}

/-- **A use with a sound cache matches one without a cache**, and leaves a sound one. -/
theorem run_matches {start : κ} (honest : TemplateCache.Honest start) (use : Use)
    {cache : Option κ} (hs : Sound files c start cache) :
    Matches (fun cache gone => Sound files c start cache ∧ gone = none)
      (use.run files depth c cache) (use.uncached.run files depth c (none : Option Cache)) := by
  cases use with
  | template cached octets data =>
    have hkeeps : ∀ r, ({ c with cached := false } : Compiler).compileOctets octets = .ok r →
        r.Keeps c := fun r hr => (Compiler.runs_of_compileOctets hr).keeps.congr rfl
    refine runCompiled_matches (fun d e hd he name data s t h =>
      includePartial_matches honest depth hd he name data h) ?_ hkeeps data ⟨hs, rfl⟩
    rw [← Compiler.compileOctets_uncached, ← Compiler.compileOctets_uncached]
    rfl
  | inclusion cached name data =>
    exact includePartial_matches honest depth (d := { c with cached })
      (e := { c with cached := false }) rfl rfl name data ⟨hs, rfl⟩

/-- More depth changes nothing where the depth was enough. -/
theorem run_agrees {more : Nat} (hle : depth ≤ more) (use : Use) (cache : Option κ)
    (h : (use.run files depth c cache).1 ≠ .tooDeep) :
    use.run files more c cache = use.run files depth c cache := by
  cases use with
  | template cached octets data =>
    exact runCompiled_agrees (fun d => includePartial_agrees files hle d) _ data cache h
  | inclusion cached name data => exact includePartial_agrees files hle _ name data cache h

/-- A sound cache changes no result. -/
theorem runAll_of_sound {start : κ} (honest : TemplateCache.Honest start) (uses : List Use)
    {cache : Option κ} (hs : Sound files c start cache) :
    runAll files depth c uses cache = uses.map (alone files depth c) := by
  induction uses generalizing cache with
  | nil => rfl
  | cons use uses ih =>
    have hmatches : Matches _ (use.run files depth c cache)
        (use.uncached.run files depth c (none : Option Cache)) := run_matches honest use hs
    obtain ⟨houtcome, hafter, -⟩ := hmatches
    simp only [runAll, List.map_cons, ih hafter]
    rw [houtcome]
    rfl

/-- **Transparency of caches.** Renderings that share a cache give what each of
them gives alone and without a cache, whatever the order: the results are a map
over the uses. A result without a cache is the same for every bound on nesting
that it ends within. Both kinds of cache, empty at first, are such caches, even
if others empty them, drop them or make them forget some entries at any moment
of a rendering. -/
theorem runAll_eq_map_alone (files : Files) (c : Compiler) :
    (∀ (κ : Type) [TemplateCache κ] (start : κ), TemplateCache.Honest start →
      ∀ (depth : Nat) (uses : List Use),
        runAll files depth c uses (some start) = uses.map (alone files depth c) ∧
        ∀ use ∈ uses, ∀ less ≤ depth, use.alone files less c ≠ .tooDeep →
          use.alone files depth c = use.alone files less c) ∧
    Cache.Forgets (fun cache => some cache.clear) ∧ Cache.Forgets (fun _ => none) ∧
    (∀ changes : List (Cache → Option Cache), (∀ change ∈ changes, Cache.Forgets change) →
      TemplateCache.Honest (⟨.memory .empty, changes⟩ : Shared Cache) ∧
      ∀ capacity h, TemplateCache.Honest (⟨.lru (.empty capacity h), changes⟩ : Shared Cache)) := by
  refine ⟨?_, Cache.forgets_clear, Cache.forgets_drop, ?_⟩
  · intro κ _ start honest depth uses
    refine ⟨runAll_of_sound honest uses sound_start, fun use _ less hle h => ?_⟩
    exact congrArg Prod.fst (run_agrees hle use.uncached none h)
  · intro changes hforget
    exact ⟨Shared.honest rfl hforget, fun capacity h => Shared.honest rfl hforget⟩

end Use

end Stencil
