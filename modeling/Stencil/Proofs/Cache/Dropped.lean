import Stencil.Proofs.Cache.Transparency
import Stencil.Session

/-!
# Stencil.Proofs.Cache.Dropped

A cache that was dropped leaves no trace in what a session gives later.

1. With no cache, every partial is read and compiled each time it is asked for, at every
   depth (`includeFresh`); nothing else is done (`includePartial_none`).
2. `Session.uncached` is a session as it would be had it never had a cache. A step does the
   same to both but for the cache (`Session.step_uncached`), since renderers and files do
   not depend on what it holds.
3. Once the cache is dropped, the two give the same replies as well
   (`Session.reply_uncached`).

The last two are lifted from steps to runs by induction on the steps.
-/

namespace Stencil

open Rendering (Outcome Matches)

/-! ## partials straight from the files -/

/-- How the partial `name` ends if every partial is read and compiled from the files
whenever it is asked for. -/
def includeFresh (files : Files) : Nat → Compiler → String → Json → Outcome String
  | 0, _, _, _ => .tooDeep
  | depth + 1, c, name, data =>
    (runCompiled (fun d name data (_ : Unit) => (includeFresh files depth d name data, ()))
      (c.compileFile files (c.resolve name)) data ()).1

/-- How a template ends if its partials come from the files in that way. -/
def Renderer.renderFresh (files : Files) (depth : Nat) (r : Renderer) (data : Json) :
    Outcome String :=
  (r.runWith (fun c name data (_ : Unit) => (includeFresh files depth c name data, ())) data ()).1

section
variable {κ : Type} [TemplateCache κ] {files : Files}

/-- Without a cache, partials come straight from the files, whether a compiler would use
a cache or not. -/
theorem includePartial_matches_fresh (depth : Nat) {c d e : Compiler}
    (hd : d.uncached = c.uncached) (he : e.uncached = c.uncached) (name : String) (data : Json)
    {cache : Option κ} (hcache : cache = none) :
    Matches (fun cache (_ : Unit) => cache = none) (includePartial files depth d name data cache)
      (includeFresh files depth e name data, ()) := by
  induction depth generalizing d e name data cache with
  | zero => exact ⟨rfl, hcache⟩
  | succ depth ih =>
    subst hcache
    have hfetch : d.fetch files name (none : Option κ) = (d.fresh files name, none) :=
      Compiler.fetch_of_none (by simp [Compiler.liveCache])
    have hsame : (d.fresh files name).map Renderer.uncached =
        (e.compileFile files (e.resolve name)).map Renderer.uncached := by
      rw [Compiler.fresh_map_uncached, Compiler.fresh_congr (hd.trans he.symm),
        ← Compiler.compileFile_uncached]
      rfl
    have hkeeps : ∀ r, e.compileFile files (e.resolve name) = .ok r → r.Keeps c := fun r hr =>
      (Compiler.runs_of_compileFile hr).keeps.congr he
    rw [includePartial, hfetch]
    exact runCompiled_matches (t := ()) (fun d e hd he name data _ _ hs => ih hd he name data hs)
      hsame hkeeps data rfl

/-- Without a cache every partial is compiled when it is included. -/
theorem includePartial_none (depth : Nat) (c : Compiler) (name : String) (data : Json) :
    includePartial files depth c name data (none : Option κ) =
      (includeFresh files depth c name data, none) := by
  have hmatches : Matches _ (includePartial files depth c name data (none : Option κ)) _ :=
    includePartial_matches_fresh depth (rfl : c.uncached = c.uncached) rfl name data rfl
  exact Prod.ext hmatches.1 hmatches.2

/-- Whether the compiler would use a cache does not matter to that. -/
theorem includeFresh_uncached (depth : Nat) (c : Compiler) (name : String) (data : Json) :
    includeFresh files depth c.uncached name data = includeFresh files depth c name data := by
  have hmatches : Matches _ (includePartial files depth c name data (none : Option Cache)) _ :=
    includePartial_matches_fresh depth (rfl : c.uncached = c.uncached)
      (rfl : c.uncached.uncached = c.uncached) name data rfl
  have houtcome : (includePartial files depth c name data (none : Option Cache)).1 =
      includeFresh files depth c.uncached name data := hmatches.1
  rw [← houtcome, includePartial_none]

/-- Without a cache a renderer compiles what it includes. -/
theorem Renderer.render_none (depth : Nat) (r : Renderer) (data : Json) :
    r.render files depth data (none : Option κ) = (r.renderFresh files depth data, none) := by
  cases r with
  | fixed source => rfl
  | program run c =>
    have hkeeps : (Renderer.program run c).Keeps c := rfl
    have hmatches : Matches (fun cache (_ : Unit) => cache = none)
        ((Renderer.program run c).render files depth data (none : Option κ)) _ :=
      Renderer.runWith_matches (t := ())
        (fun d e hd he name data _ _ hs => includePartial_matches_fresh depth hd he name data hs)
        rfl hkeeps data rfl
    exact Prod.ext hmatches.1 hmatches.2

/-- So does one that would use no cache. -/
theorem Renderer.renderFresh_uncached (depth : Nat) (r : Renderer) (data : Json) :
    r.uncached.renderFresh files depth data = r.renderFresh files depth data := by
  cases r with
  | fixed source => rfl
  | program run c =>
    have hsame : ∀ name data, includeFresh files depth c.uncached name data =
      includeFresh files depth c name data := includeFresh_uncached depth c
    simp only [Renderer.renderFresh, Renderer.uncached, Renderer.runWith, hsame]

end

/-! ## sessions -/

namespace Session

/-- A session as it would be had it never had a cache. -/
def uncached (s : Session) : Session where
  files := s.files
  compiler := s.compiler.uncached
  resolver := s.resolver.uncached
  cache := none
  renderers := s.renderers.map fun (name, r) => (name, r.uncached)

variable (depth : Nat) (s : Session)

/-- Keeping what was compiled for later commutes with giving up the cache. -/
theorem keep_uncached (name : String) (compiled : Except Error Renderer) :
    s.uncached.keep name (compiled.map Renderer.uncached) =
      ((s.keep name compiled).1, (s.keep name compiled).2.uncached) := by
  cases compiled with
  | error e => rfl
  | ok r =>
    have hfixed : r.uncached.isFixed = r.isFixed := by cases r <;> rfl
    simp only [Except.map, keep, hfixed, uncached, List.filter_map, List.map_cons,
      Function.comp_def]

/-- So does compiling a text. -/
theorem step_compile_uncached (name : String) (octets : List UInt8) :
    s.uncached.step depth (.compile name octets) =
      ((s.step depth (.compile name octets)).1,
        (s.step depth (.compile name octets)).2.uncached) := by
  have hkeep := s.keep_uncached name (s.compiler.compileOctets octets)
  rw [← Compiler.compileOctets_uncached] at hkeep
  exact hkeep

/-- So does compiling a file. -/
theorem step_compileFile_uncached (name path : String) :
    s.uncached.step depth (.compileFile name path) =
      ((s.step depth (.compileFile name path)).1,
        (s.step depth (.compileFile name path)).2.uncached) := by
  have hkeep := s.keep_uncached name (s.compiler.compileFile s.files path)
  rw [← Compiler.compileFile_uncached] at hkeep
  exact hkeep

/-- The same renderers are kept, for use without a cache. -/
theorem lookup_renderers_uncached (name : String) :
    s.uncached.renderers.lookup name = (s.renderers.lookup name).map Renderer.uncached := by
  simp only [uncached]
  induction s.renderers with
  | nil => rfl
  | cons entry rest ih =>
    rw [List.map_cons, List.lookup_cons, List.lookup_cons]
    cases name == entry.1 with
    | true => rfl
    | false => exact ih

section
variable {s}

/-- With no cache, a renderer that is kept asks for its partials from the files. -/
theorem rendered_of_none (hcache : s.cache = none) (r : Renderer) (data : Json) :
    s.rendered depth r data = (.rendered (r.renderFresh s.files depth data), s) := by
  rw [rendered, hcache, Renderer.render_none, ← hcache]

/-- Once the cache is gone an inclusion compiles the partial and changes nothing. -/
theorem step_includePartial_of_none (hcache : s.cache = none) (name : String) (data : Json) :
    s.step depth (.includePartial name data) =
      (.rendered (includeFresh s.files depth s.resolver name data), s) := by
  rw [step, hcache, includePartial_none, ← hcache]

end

/-- What a cache holds decides how a rendering ends and what the cache holds afterwards, and
nothing else. -/
theorem rendered_uncached (r : Renderer) (data : Json) :
    (s.rendered depth r data).2.uncached = s.uncached := rfl

/-- Looking something up changes the cache at most. -/
theorem lookup_uncached (name : String) (data : Json) :
    (s.lookup depth name data).2.uncached = s.uncached := by
  rw [lookup]
  split
  · rfl
  · next cache _ =>
    split
    · rfl
    · rfl

/-- So does storing something. -/
theorem store_uncached (name path : String) (compiled : Except Error Renderer) :
    (s.store name path compiled).2.uncached = s.uncached := by
  cases compiled with
  | error e => rfl
  | ok r => rfl

/-- A step does the same to a session and to one without a cache, but for the cache. -/
theorem step_uncached (step : Step) :
    (s.uncached.step depth step).2 = (s.step depth step).2.uncached := by
  cases step with
  | compile name octets => rw [step_compile_uncached]
  | compileFile name path => rw [step_compileFile_uncached]
  | render name data =>
    simp only [Session.step, lookup_renderers_uncached]
    cases s.renderers.lookup name with
    | none => rfl
    | some r =>
      rw [Option.map_some]
      simp only [rendered_of_none depth (s := s.uncached) rfl, rendered_uncached]
  | includePartial name data =>
    rw [step_includePartial_of_none depth rfl]
    rfl
  | write place node => rfl
  | remove place => rfl
  | lookup name data => exact (s.lookup_uncached depth name data).symm
  | store name path octets =>
    simp only [Session.step, store_uncached]
    cases s.uncached.compiler.compileOctets octets with
    | error e => rfl
    | ok r => rfl
  | clear => rfl
  | dropCache => rfl

variable {s}

/-- A cache that is gone stays gone. -/
theorem cache_step_of_none (hcache : s.cache = none) (step : Step) :
    (s.step depth step).2.cache = none := by
  cases step with
  | compile name octets =>
    rw [Session.step]
    cases s.compiler.compileOctets octets <;> exact hcache
  | compileFile name path =>
    rw [Session.step]
    cases s.compiler.compileFile s.files path <;> exact hcache
  | render name data =>
    rw [Session.step]
    cases s.renderers.lookup name with
    | none => exact hcache
    | some r =>
      dsimp only
      rw [rendered_of_none depth hcache]
      exact hcache
  | includePartial name data =>
    rw [step_includePartial_of_none depth hcache]
    exact hcache
  | write place node => exact hcache
  | remove place => exact hcache
  | lookup name data =>
    rw [Session.step, lookup, hcache]
    exact hcache
  | store name path octets =>
    rw [Session.step]
    cases s.compiler.compileOctets octets with
    | error e => exact hcache
    | ok r => simp only [store, hcache, Option.map_none]
  | clear => simp only [Session.step, hcache, Option.map_none]
  | dropCache => rfl

/-- Without its cache, a session replies as one that never had any. -/
theorem reply_uncached (hcache : s.cache = none) (step : Step) :
    (s.uncached.step depth step).1 = (s.step depth step).1 := by
  cases step with
  | compile name octets => rw [step_compile_uncached]
  | compileFile name path => rw [step_compileFile_uncached]
  | render name data =>
    simp only [Session.step, lookup_renderers_uncached]
    cases s.renderers.lookup name with
    | none => rfl
    | some r =>
      rw [Option.map_some]
      simp only [rendered_of_none depth (s := s.uncached) rfl, rendered_of_none depth hcache,
        Renderer.renderFresh_uncached]
      rfl
  | includePartial name data =>
    rw [step_includePartial_of_none depth hcache, step_includePartial_of_none depth rfl]
    exact congrArg Reply.rendered (includeFresh_uncached depth s.resolver name data)
  | write place node => rfl
  | remove place => rfl
  | lookup name data =>
    simp only [Session.step, lookup, hcache]
    rfl
  | store name path octets =>
    have hcompile : s.uncached.compiler.compileOctets octets =
        (s.compiler.compileOctets octets).map Renderer.uncached :=
      s.compiler.compileOctets_uncached octets
    simp only [Session.step, hcompile]
    cases s.compiler.compileOctets octets with
    | error e => rfl
    | ok r => rfl
  | clear => rfl
  | dropCache => rfl

/-! ## runs -/

/-- A session takes its first step, and then the others. -/
theorem run_cons (step : Step) (rest : List Step) (s : Session) :
    run depth (step :: rest) s = ((s.step depth step).1 :: (run depth rest (s.step depth step).2).1,
      (run depth rest (s.step depth step).2).2) := rfl

/-- What comes later begins where the earlier steps end. -/
theorem run_append (steps steps' : List Step) (s : Session) :
    run depth (steps ++ steps') s =
      ((run depth steps s).1 ++ (run depth steps' (run depth steps s).2).1,
        (run depth steps' (run depth steps s).2).2) := by
  induction steps generalizing s with
  | nil => rfl
  | cons step rest ih => rw [List.cons_append, run_cons, run_cons, ih, List.cons_append]

/-- There is a reply to every step. -/
theorem length_run (steps : List Step) (s : Session) :
    (run depth steps s).1.length = steps.length := by
  induction steps generalizing s with
  | nil => rfl
  | cons step rest ih => exact congrArg (· + 1) (ih _)

/-- A run does the same to a session and to one without a cache, but for the cache. -/
theorem run_uncached (steps : List Step) (s : Session) :
    (run depth steps s.uncached).2 = (run depth steps s).2.uncached := by
  induction steps generalizing s with
  | nil => rfl
  | cons step rest ih => rw [run_cons, run_cons, step_uncached, ih]

/-- A cache that is gone stays gone. -/
theorem cache_run_of_none (hcache : s.cache = none) (steps : List Step) :
    (run depth steps s).2.cache = none := by
  induction steps generalizing s with
  | nil => exact hcache
  | cons step rest ih => exact ih (cache_step_of_none depth hcache step)

/-- Without its cache, a session replies to a run as one that never had any. -/
theorem replies_uncached (hcache : s.cache = none) (steps : List Step) :
    (run depth steps s.uncached).1 = (run depth steps s).1 := by
  induction steps generalizing s with
  | nil => rfl
  | cons step rest ih =>
    rw [run_cons, run_cons, reply_uncached depth hcache, step_uncached,
      ih (cache_step_of_none depth hcache step)]

/-- **A dropped cache is as if it had never been.** Whatever a session did with a cache, and
whatever the cache held in the beginning: once it is dropped, all later replies are those of
the session that does the same and never had one. After any of these later steps the two
agree in all but the wish for a cache. What is rendered then, by renderers and by the
resolver made before or after, is what comes of reading and compiling every partial from the
files of that moment whenever it is asked for. -/
theorem run_dropCache (config : Config) (engine : Engine) (files : Files) (cache : Cache)
    (depth : Nat) (before after : List Step) :
    let dropped := run depth (before ++ .dropCache :: after)
      (start config engine files (some cache))
    let plain := run depth (before ++ after) (start config engine files none)
    dropped.1.drop (before.length + 1) = plain.1.drop before.length ∧
      dropped.2.uncached = plain.2 ∧ dropped.2.cache = none ∧
      (∀ name data, dropped.2.step depth (.includePartial name data) =
        (.rendered (includeFresh dropped.2.files depth dropped.2.resolver name data),
          dropped.2)) ∧
      ∀ name data, dropped.2.step depth (.render name data) =
        (match dropped.2.renderers.lookup name with
          | some r => .rendered (r.renderFresh dropped.2.files depth data)
          | none => .missing, dropped.2) := by
  intro dropped plain
  have hstart : start config engine files none =
    (start config engine files (some cache)).uncached := rfl
  -- the session with the cache, up to the drop and after it
  let used := (run depth before (start config engine files (some cache))).2
  let bare := (used.step depth .dropCache).2
  have hused : (run depth before (start config engine files none)).2 = used.uncached := by
    rw [hstart, run_uncached]
  have hdropped : dropped = ((run depth before (start config engine files (some cache))).1 ++
      .done :: (run depth after bare).1, (run depth after bare).2) := run_append ..
  have hplain : plain = ((run depth before (start config engine files none)).1 ++
      (run depth after bare.uncached).1, (run depth after bare.uncached).2) := by
    have happend := run_append depth before after (start config engine files none)
    rw [hused] at happend
    exact happend
  have hbare : bare.cache = none := rfl
  have hnone : dropped.2.cache = none := by
    rw [hdropped]
    exact cache_run_of_none depth hbare after
  refine ⟨?_, ?_, hnone, step_includePartial_of_none depth hnone, fun name data => ?_⟩
  · have hlater : dropped.1.drop (before.length + 1) = (run depth after bare).1 := by
      rw [hdropped, ← length_run depth before (start config engine files (some cache)),
        List.drop_length_add_append]
      rfl
    have hplainLater : plain.1.drop before.length = (run depth after bare.uncached).1 := by
      rw [hplain, ← length_run depth before (start config engine files none), List.drop_left]
    rw [hlater, hplainLater, replies_uncached depth hbare]
  · rw [hdropped, hplain, run_uncached]
  · rw [step]
    cases dropped.2.renderers.lookup name with
    | none => rfl
    | some r => exact rendered_of_none depth hnone r data

end Session

end Stencil
