import Stencil.Proofs.Cache.Growth
import Stencil.Proofs.Inclusions
import Stencil.Proofs.Script.FirstError
import Stencil.Proofs.Text.Utf8
import Stencil.Script.Engine

/-!
# Stencil.Proofs.Script.ErrorKinds

Errors of scripts keep their kind.

1. Compiling fails because code is malformed, or because octets are no text, and for no
   other reason (`compile_error`, `compileOctets_error`).
2. Running a script makes errors of running only, and hands on those of its partials
   (`forwards_run`), so a run fails with one of its own, or with the error of the last
   partial that it asks for (`Renderer.failedWith`).
3. That error is one of loading the partial or one of running it (`includePartial_error`),
   which has a cause of the same kind one level further down (`Renderer.Scripted.explained`).

Which of several errors it is that ends a run is the subject of
`Stencil.Proofs.Script.FirstError`.
-/

namespace Stencil

open Rendering (Outcome Inclusion Answered FailedWith Forwards logged inclusions)

/-- The error says that code is malformed. -/
def Error.IsSyntax (e : Error) : Prop := ∃ cause near, e = .malformed cause near

namespace Script

open Parse

/-! ## compiling -/

section
variable {e : Error}

/-- Code that could not be read is a mistake of syntax. -/
theorem isSyntax_malformedAfter (cause : SyntaxCause) (before : List Char) :
    (Error.malformedAfter cause before).IsSyntax := ⟨_, _, rfl⟩

/-- Taking tokens off code fails with a mistake of syntax only. -/
theorem tokens_error {base : Nat} {code : String} (h : tokens base code = .error e) :
    e.IsSyntax := by
  unfold tokens at h
  split at h
  · cases h
  · obtain rfl := Except.error.inj h
    exact isSyntax_malformedAfter _ _

/-- The code of a value fails with a mistake of syntax only. -/
theorem parseValue_error {expr : String} (h : parseValue expr = .error e) : e.IsSyntax := by
  rcases Except.bind_eq_error_iff.1 h with h | ⟨ts, -, h⟩
  · exact tokens_error h
  · split at h
    · cases h
    · obtain rfl := Except.error.inj h
      exact isSyntax_malformedAfter _ _

/-- Gathering the tokens of all nodes fails with a mistake of syntax only. -/
theorem collect_error {base index : Nat} {program : Program}
    (h : collect base index program = .error e) : e.IsSyntax := by
  induction program generalizing base index with
  | nil => cases h
  | cons node rest ih =>
    cases node with
    | code text =>
      rcases Except.bind_eq_error_iff.1 h with h | ⟨ts, -, h⟩
      · exact tokens_error h
      rcases Except.bind_eq_error_iff.1 h with h | ⟨read, -, h⟩
      · exact ih h
      · cases h
    | literal text =>
      rcases Except.bind_eq_error_iff.1 h with h | ⟨read, -, h⟩
      · exact ih h
      · cases h
    | value expr escape trim =>
      rcases Except.bind_eq_error_iff.1 h with h | ⟨tree, -, h⟩
      · exact parseValue_error h
      rcases Except.bind_eq_error_iff.1 h with h | ⟨read, -, h⟩
      · exact ih h
      · cases h

/-- No script is made of a program only since it has a mistake of syntax. -/
theorem ofProgram_error {program : Program} (h : ofProgram program = .error e) : e.IsSyntax := by
  rcases Except.bind_eq_error_iff.1 h with h | ⟨⟨ts, outputs⟩, -, h⟩
  · exact collect_error h
  · dsimp only at h
    split at h
    · cases h
    · obtain rfl := Except.error.inj h
      exact isSyntax_malformedAfter _ _

end

end Script

section
variable {c : Compiler} {e : Error}

/-- So a text is either compiled or has a mistake of syntax. -/
theorem Compiler.compile_error (hengine : c.engine = Script.engine) {source : String}
    (h : c.compile source = .error e) : e.IsSyntax := by
  rw [Compiler.compile, hengine] at h
  split at h
  · cases h
  rcases Except.bind_eq_error_iff.1 h with h | ⟨run, -, h⟩
  · rcases Except.bind_eq_error_iff.1 h with h | ⟨script, -, h⟩
    · exact Script.ofProgram_error h
    · cases h
  · cases h

/-- Octets are rejected either since they are no text or since the text has a mistake. -/
theorem Compiler.compileOctets_error (hengine : c.engine = Script.engine) {octets : List UInt8}
    (h : c.compileOctets octets = .error e) :
    e = .notText ∧ ¬ Text.IsUtf8 octets ∨ e.IsSyntax ∧ Text.IsUtf8 octets := by
  unfold Compiler.compileOctets at h
  split at h
  · next source hsource =>
    exact .inr ⟨Compiler.compile_error hengine h, Text.isUtf8_of_ofUtf8? hsource⟩
  · next hnone =>
    exact .inl ⟨(Except.error.inj h).symm, Text.ofUtf8?_eq_none_iff.1 hnone⟩

/-- Octets that are no text are never compiled. -/
theorem Compiler.compileOctets_of_not_isUtf8 (c : Compiler) {octets : List UInt8}
    (h : ¬ Text.IsUtf8 octets) : c.compileOctets octets = .error .notText := by
  rw [Compiler.compileOctets, Text.ofUtf8?_eq_none_iff.2 h]

end

/-! ## running -/

namespace Script

section
variable {ctx : Context} {outputs : List Output} {scopes : Scopes}

/-- To fail on one's own is to fail with an error of running. -/
theorem forwards_failWith {α : Type} (cause : RuntimeCause) :
    (failWith cause : Rendering α).Forwards := ⟨cause, rfl⟩

/-- To take the result of an operation is to go on or to fail so. -/
theorem forwards_ofResult {α : Type} (r : Except RuntimeCause α) : (ofResult r).Forwards := by
  cases r with
  | ok a => trivial
  | error cause => exact forwards_failWith cause

/-- A call of a function hands its requests on, and fails so otherwise. -/
theorem forwards_callFunction (f : Function) (args : List Json) :
    (callFunction f args).Forwards := by
  cases f with
  | includePartial => exact (Rendering.forwards_includeText _ _).bind fun _ => trivial
  | escapeHtml => trivial
  | trimLineEndings => trivial
  | trimBlanks => trivial

mutual

/-- Evaluating an expression makes no errors but those of running. -/
theorem forwards_eval : (e : Expr) → (eval ctx scopes e).Forwards
  | .literal value => trivial
  | .ident name => forwards_ofResult _
  | .array items => by
    rw [eval]
    exact (forwards_evalItems items).bind fun _ => trivial
  | .object entries => by
    rw [eval]
    exact (forwards_evalEntries entries).bind fun _ => trivial
  | .member target name => by
    rw [eval]
    exact (forwards_eval target).bind fun _ => forwards_ofResult _
  | .index target key => by
    rw [eval]
    exact (forwards_eval key).bind fun _ => (forwards_eval target).bind fun _ =>
      forwards_ofResult _
  | .call callee args => by
    cases callee with
    | ident name =>
      rw [eval]
      split
      · exact forwards_failWith _
      · refine (forwards_evalItems args).bind fun _ => ?_
        split
        · exact forwards_callFunction _ _
        · exact forwards_failWith _
    | member target name =>
      rw [eval]
      exact (forwards_eval target).bind fun _ => (forwards_evalItems args).bind fun _ =>
        forwards_ofResult _
    | _ => exact forwards_failWith _
  | .unary op operand => by
    rw [eval]
    exact (forwards_eval operand).bind fun _ => trivial
  | .binary op left right => by
    rw [eval]
    refine (forwards_eval left).bind fun l => ?_
    split
    · trivial
    · exact (forwards_eval right).bind fun _ => trivial
  | .conditional condition yes no => by
    rw [eval]
    refine (forwards_eval condition).bind fun c => ?_
    split
    · exact forwards_eval yes
    · exact forwards_eval no

/-- The same holds of the expressions of a list. -/
theorem forwards_evalItems : (es : List Expr) → (evalItems ctx scopes es).Forwards
  | [] => trivial
  | e :: rest => by
    rw [evalItems]
    exact (forwards_eval e).bind fun _ => (forwards_evalItems rest).bind fun _ => trivial

/-- The same holds of the entries of an object. -/
theorem forwards_evalEntries : (es : List (String × Expr)) → (evalEntries ctx scopes es).Forwards
  | [] => trivial
  | (key, e) :: rest => by
    rw [evalEntries]
    exact (forwards_eval e).bind fun _ => (forwards_evalEntries rest).bind fun _ => trivial

end

end

section
variable {ctx : Context} {outputs : List Output} {run : Frame → Rendering Frame}

/-- An output adds none to those of its expression. -/
theorem forwards_outputText (scopes : Scopes) (output : Output) :
    (outputText ctx scopes output).Forwards := by
  cases output with
  | text s => trivial
  | value e escape trim => exact (forwards_eval e).bind fun _ => trivial

/-- A scope adds none to those of what runs in it. -/
theorem forwards_inScope (h : ∀ frame, (run frame).Forwards) (scope : Scope) (frame : Frame) :
    (inScope scope run frame).Forwards := (h _).bind fun _ => trivial

/-- A loop adds none to those of its turns. -/
theorem forwards_turns (h : ∀ frame, (run frame).Forwards) (name : String) (values : List Json)
    (frame : Frame) : (turns name run values frame).Forwards := by
  induction values generalizing frame with
  | nil => trivial
  | cons value rest ih =>
    rw [turns]
    exact (forwards_inScope h _ _).bind fun after => ih after

mutual

/-- A statement adds none to those of its parts. -/
theorem forwards_exec : (st : Stmt) → (frame : Frame) → (exec outputs ctx st frame).Forwards
  | .emit index, frame => by
    rw [exec]
    split
    · trivial
    · exact (forwards_outputText _ _).bind fun _ => trivial
  | .expr e, frame => by
    rw [exec]
    exact (forwards_eval e).bind fun _ => trivial
  | .declare name none, frame => trivial
  | .declare name (some e), frame => by
    rw [exec]
    exact (forwards_eval e).bind fun _ => trivial
  | .assign name op e, frame => by
    rw [exec]
    refine (forwards_eval e).bind fun value => ?_
    split
    · trivial
    · exact forwards_failWith _
  | .branch condition yes no, frame => by
    rw [exec_branch_eq]
    refine (forwards_eval condition).bind fun c => ?_
    split
    · exact forwards_inScope (forwards_exec yes) [] frame
    · cases no with
      | none => trivial
      | some no => exact forwards_inScope (forwards_exec no) [] frame
  | .forOf name e body, frame => by
    rw [exec]
    exact (forwards_eval e).bind fun v => (forwards_ofResult _).bind fun values =>
      forwards_turns (forwards_exec body) name values frame
  | .forIn name e body, frame => by
    rw [exec]
    exact (forwards_eval e).bind fun v => forwards_turns (forwards_exec body) name _ frame
  | .block body, frame => by
    rw [exec]
    exact forwards_inScope (forwards_execAll body) [] frame
  | .empty, frame => trivial

/-- Statements one after the other add none. -/
theorem forwards_execAll : (body : List Stmt) → (frame : Frame) →
    (execAll outputs ctx body frame).Forwards
  | [], frame => trivial
  | st :: rest, frame => by
    rw [execAll]
    exact (forwards_exec st frame).bind fun after => forwards_execAll rest after

end

/-- A script makes errors of running only, and hands on those of its partials. -/
theorem forwards_run (script : Tree) (dataName : String) (data : Json) :
    (script.run dataName data).Forwards :=
  (forwards_execAll script.body _).bind fun _ => trivial

end

end Script

/-! ## renderers -/

namespace Renderer

/-- The renderer is that of a script, and its partials are compiled as scripts. -/
def Scripted : Renderer → Prop
  | .fixed _ => True
  | .program run c => c.engine = Script.engine ∧
    ∃ script : Script.Tree, run = script.run c.config.effectiveDataName

/-- The partials that a renderer asks for. -/
def inclusions {σ : Type} (reply : Compiler → String → Json → σ → Outcome String × σ)
    (r : Renderer) (data : Json) (s : σ) : List (Inclusion σ) :=
  match r with
  | .fixed _ => []
  | .program run c => (run data).inclusions (reply c) s

section
variable {σ : Type} {reply : Compiler → String → Json → σ → Outcome String × σ} {r : Renderer}
  {data : Json} {s t : σ} {e : Error}

/-- Keeping a log changes neither the outcome nor the state. -/
theorem runWith_logged (reply : Compiler → String → Json → σ → Outcome String × σ) (r : Renderer)
    (data : Json) (s : σ) (log : List (Inclusion σ)) :
    r.runWith (fun c => logged (reply c)) data (s, log) =
      ((r.runWith reply data s).1,
        ((r.runWith reply data s).2, log ++ r.inclusions reply data s)) := by
  cases r with
  | fixed source => simp [runWith, inclusions]
  | program run c => exact Rendering.answer_logged _ _ _

/-- The state in the end is the one after the last inclusion. -/
theorem state_of_inclusions (reply : Compiler → String → Json → σ → Outcome String × σ)
    (r : Renderer) (data : Json) (s : σ) :
    ((r.inclusions reply data s).getLast?.map Inclusion.after).getD s =
      (r.runWith reply data s).2 := by
  cases r with
  | fixed source => rfl
  | program run c => exact (Rendering.answered_inclusions _ _).state_eq

/-- The renderer fails with an error of its own, or with that of its last partial. -/
theorem failedWith (hr : r.Scripted) (h : r.runWith reply data s = (.fail e, t)) :
    FailedWith e (r.inclusions reply data s) := by
  cases r with
  | fixed source => simp [runWith] at h
  | program run c =>
    obtain ⟨-, script, rfl⟩ := hr
    exact (Script.forwards_run script _ data).failedWith h

end

end Renderer

/-- Compiling a template as a script makes the renderer of a script. -/
theorem Compiler.scripted_of_compile {c : Compiler} (hengine : c.engine = Script.engine)
    {source : String} {r : Renderer} (h : c.compile source = .ok r) : r.Scripted := by
  rw [Compiler.compile] at h
  split at h
  · obtain rfl := Except.ok.inj h
    trivial
  · obtain ⟨run, hrun, h⟩ := Except.bind_eq_ok_iff.1 h
    obtain rfl := Except.ok.inj h
    rw [hengine] at hrun
    obtain ⟨script, -, hrun⟩ := Except.bind_eq_ok_iff.1 hrun
    exact ⟨hengine, script, (Except.ok.inj hrun).symm⟩

/-! ## partials -/

section
variable {κ : Type} [TemplateCache κ] {files : Files} {c : Compiler} {name : String} {data : Json}
  {cache after : Option κ} {e : Error}

/-- What is compiled from a file is a script of this language. -/
theorem Compiler.scripted_of_compileFile (hengine : c.engine = Script.engine) {path : String}
    {r : Renderer} (h : c.compileFile files path = .ok r) : r.Scripted := by
  obtain ⟨octets, -, hcompile⟩ := compileFile_eq_ok_iff.1 h
  unfold Compiler.compileOctets at hcompile
  split at hcompile
  · exact Compiler.scripted_of_compile hengine hcompile
  · cases hcompile

/-- The kinds of errors of loading a partial. -/
theorem Unloadable.kind (hengine : c.engine = Script.engine) (h : Unloadable files c name e) :
    (∃ fault, e = .unreadable fault (c.resolve name)) ∨ e = .notText ∨ e.IsSyntax := by
  cases h with
  | unreadable _ => exact .inl ⟨_, rfl⟩
  | notText _ _ => exact .inr (.inl rfl)
  | refused _ _ hcompile => exact .inr (.inr (Compiler.compile_error hengine hcompile))

/-- A partial that cannot be fetched cannot be loaded. -/
theorem Compiler.fetch_error (h : (c.fetch files name cache).1 = .error e) :
    Unloadable files c name e := by
  cases hlive : c.liveCache cache with
  | none =>
    rw [Compiler.fetch_of_none hlive, Compiler.compileFile_uncached] at h
    exact unloadable_of_compileFile (Except.map_eq_error_iff.1 h)
  | some live =>
    rcases hlookup : TemplateCache.lookup name live with ⟨_ | r, found⟩
    · rw [Compiler.fetch_of_miss hlive hlookup] at h
      exact unloadable_of_compileFile h
    · rw [Compiler.fetch_of_hit hlive hlookup] at h
      cases h

/-- Rendering a partial fails where it cannot be loaded, or where it fails itself one level
further down. -/
theorem includePartial_error {depth : Nat}
    (h : includePartial files depth c name data cache = (.fail e, after)) :
    ∃ less, depth = less + 1 ∧
      (c.fetch files name cache = (.error e, after) ∧ Unloadable files c name e ∨
        ∃ r looked, c.fetch files name cache = (.ok r, looked) ∧
          r.render files less data looked = (.fail e, after)) := by
  cases depth with
  | zero => simp [includePartial] at h
  | succ less =>
    refine ⟨less, rfl, ?_⟩
    rw [includePartial] at h
    rcases hfetch : c.fetch files name cache with ⟨compiled, looked⟩
    rw [hfetch] at h
    cases compiled with
    | error e' =>
      obtain ⟨rfl, rfl⟩ : e' = e ∧ looked = after := by simpa [runCompiled] using h
      exact .inl ⟨rfl, Compiler.fetch_error (by rw [hfetch])⟩
    | ok r => exact .inr ⟨r, looked, rfl, h⟩

/-! ## partials in partials -/

/-- A cache in which only scripts are found, as long as only scripts are stored. -/
def ScriptedCache (cache : Option κ) : Prop :=
  ∀ live, cache = some live → TemplateCache.Gives Renderer.Scripted live

/-- Fetching keeps a cache of scripts, and gives a script. -/
theorem ScriptedCache.fetch (hengine : c.engine = Script.engine) (h : ScriptedCache cache)
    (files : Files) (name : String) : ScriptedCache (c.fetch files name cache).2 ∧
      ∀ r, (c.fetch files name cache).1 = .ok r → r.Scripted := by
  cases hlive : c.liveCache cache with
  | none =>
    rw [Compiler.fetch_of_none hlive]
    exact ⟨h, fun r hr => Compiler.scripted_of_compileFile (c := c.uncached) hengine hr⟩
  | some live =>
    have hgives : TemplateCache.Gives Renderer.Scripted live := by
      simp only [Compiler.liveCache] at hlive
      split at hlive
      · obtain ⟨start, rfl, hup⟩ := Option.bind_eq_some_iff.1 hlive
        exact (h start rfl).of_reached (.upgraded .start hup) (by simp)
      · cases hlive
    have hlooked : TemplateCache.Gives Renderer.Scripted (TemplateCache.lookup name live).2 :=
      hgives.of_reached (.lookedUp name .start) (by simp)
    rcases hlookup : TemplateCache.lookup name live with ⟨_ | r, found⟩
    · rw [hlookup] at hlooked
      rw [Compiler.fetch_of_miss hlive hlookup]
      have hscripted : ∀ r, c.compileFile files (c.resolve name) = .ok r → r.Scripted :=
        fun r hr => Compiler.scripted_of_compileFile hengine hr
      refine ⟨?_, hscripted⟩
      rintro _ ⟨⟩
      cases hcompile : c.compileFile files (c.resolve name) with
      | error e => exact hlooked
      | ok r =>
        exact hlooked.of_reached (.stored name (c.resolve name) r .start)
          (by simpa using hscripted r hcompile)
    · rw [Compiler.fetch_of_hit hlive hlookup]
      refine ⟨?_, ?_⟩
      · rintro _ ⟨⟩
        rwa [hlookup] at hlooked
      · rintro _ ⟨⟩
        exact hgives live [] name r .start (by simp) (by rw [hlookup])

/-- So does an inclusion, however many others it makes. -/
theorem includePartial_scriptedCache (depth : Nat) (hengine : c.engine = Script.engine)
    (h : ScriptedCache cache) (name : String) (data : Json) :
    ScriptedCache (includePartial files depth c name data cache).2 := by
  induction depth generalizing c name data cache with
  | zero => exact h
  | succ depth ih =>
    obtain ⟨hlooked, hscripted⟩ := h.fetch hengine files name
    have hruns : ∀ r, (c.fetch files name cache).1 = .ok r →
        r.Runs fun d => d.engine = Script.engine := by
      intro r hr
      cases r with
      | fixed source => trivial
      | program run d => exact (hscripted _ hr).1
    simp only [includePartial]
    exact runCompiled_keeps (I := ScriptedCache)
      (fun d hd name data s hs => ih hd hs name data) hruns data hlooked

end

/-- How a renderer comes to fail with an error: its own script fails after all of its
partials were rendered, or the last of them cannot be loaded, or that one fails for a
reason of the same kind. -/
inductive Explained {κ : Type} [TemplateCache κ] (files : Files) :
    Nat → Renderer → Json → Option κ → Error → Prop where
  | own {depth : Nat} {r : Renderer} {data : Json} {cache : Option κ}
    {cause : Script.RuntimeCause} :
    (∀ i ∈ r.inclusions (includePartial files depth) data cache, i.Rendered) →
    Explained files depth r data cache (.runtime cause)
  | loading {depth : Nat} {run : Executable} {c : Compiler} {data : Json} {cache : Option κ}
    {earlier : List (Inclusion (Option κ))} {last : Inclusion (Option κ)} {e : Error} :
    (Renderer.program run c).inclusions (includePartial files depth) data cache =
      earlier ++ [last] →
    (∀ i ∈ earlier, i.Rendered) → last.outcome = .fail e → Unloadable files c last.name e →
    Explained files depth (.program run c) data cache e
  | rendering {depth : Nat} {run : Executable} {c : Compiler} {data : Json} {cache : Option κ}
    {earlier : List (Inclusion (Option κ))} {last : Inclusion (Option κ)} {e : Error}
    {r : Renderer} {looked : Option κ} :
    (Renderer.program run c).inclusions (includePartial files (depth + 1)) data cache =
      earlier ++ [last] →
    (∀ i ∈ earlier, i.Rendered) → last.outcome = .fail e →
    c.fetch files last.name last.before = (.ok r, looked) →
    Explained files depth r last.data looked e →
    Explained files (depth + 1) (.program run c) data cache e

/-- A script that fails has made a mistake of its own, or an inclusion in it has. -/
theorem Renderer.Scripted.explained {κ : Type} [TemplateCache κ] {files : Files} {depth : Nat}
    {r : Renderer} {data : Json} {cache after : Option κ} {e : Error} (hr : r.Scripted)
    (hcache : ScriptedCache cache) (h : r.render files depth data cache = (.fail e, after)) :
    Explained files depth r data cache e := by
  induction depth using Nat.strongRecOn generalizing r data cache after with
  | ind depth ih =>
    have hfailed := Renderer.failedWith hr h
    generalize hlog : r.inclusions (includePartial files depth) data cache = log at hfailed
    cases hfailed with
    | own he hrendered =>
      subst he
      exact .own (by rwa [hlog])
    | @handedOn earlier last hrendered hlast =>
      cases r with
      | fixed source => simp [Renderer.inclusions] at hlog
      | program run c =>
        have hanswered : Answered (includePartial files depth c) cache (earlier ++ [last])
            ((run data).answer (includePartial files depth c) cache).2 := by
          rw [← hlog]
          exact Rendering.answered_inclusions (run data) cache
        have hmem : last ∈ earlier ++ [last] := by simp
        have hreply := hanswered.reply_eq hmem
        have hbefore : ScriptedCache last.before := hanswered.keeps (I := ScriptedCache)
          (fun name data s hs => includePartial_scriptedCache depth hr.1 hs name data) hcache hmem
        rw [hlast] at hreply
        obtain ⟨less, rfl, ⟨-, hload⟩ | ⟨p, looked, hfetch, hrender⟩⟩ :=
          includePartial_error hreply
        · exact .loading hlog hrendered hlast hload
        · obtain ⟨hlooked, hscripted⟩ := hbefore.fetch hr.1 files last.name
          rw [hfetch] at hlooked hscripted
          exact .rendering hlog hrendered hlast hfetch
            (ih less (by omega) (hscripted p rfl) hlooked hrender)

/-! ## runs of scripts -/

namespace Script

/-- Where the run of a script begins. -/
def Tree.start (script : Tree) : Task := .execAll ⟨[[]], ""⟩ script.body

/-- A script fails where one of its statements does. -/
theorem answer_run_eq_fail_iff {σ : Type} {reply : String → Json → σ → Outcome String × σ}
    {script : Tree} {dataName : String} {data : Json} {s t : σ} {e : Error} :
    (script.run dataName data).answer reply s = (.fail e, t) ↔
      Fails reply script.outputs ⟨dataName, data⟩ (script.start, s) e t :=
  Rendering.answer_bind_pure_eq_fail_iff

end Script

/-- **Errors keep their kind.** Compiling a template as a script fails because its code is
malformed, and if it is given as octets, because they are no text; the latter exactly if
they are none.

A renderer of a script fails with an error of running, after partials that were all
rendered, or with the very error of the last partial that it asked for, and leaves the
state that this left. What a partial fails with is an error of loading it, which is one of
three kinds, or that of rendering it, which is explained in the same way.

It is the first error in the order of evaluation: the script fails exactly if its run comes
to something that raises the error, and whatever it comes to that fails, the run ends with
that error in the state that was left there. -/
theorem errors_keep_kind :
    (∀ {c : Compiler}, c.engine = Script.engine →
      (∀ source e, c.compile source = .error e → e.IsSyntax) ∧
      (∀ octets e, c.compileOctets octets = .error e → e = .notText ∨ e.IsSyntax) ∧
      (∀ octets, c.compileOctets octets = .error .notText ↔ ¬ Text.IsUtf8 octets) ∧
      ∀ source r, c.compile source = .ok r → r.Scripted) ∧
    (∀ {κ : Type} [TemplateCache κ] {files : Files} {depth : Nat} {r : Renderer} {data : Json}
      {cache after : Option κ} {e : Error}, r.Scripted →
      r.render files depth data cache = (.fail e, after) →
      ∃ log, r.runWith (fun c => logged (includePartial files depth c)) data (cache, []) =
          (.fail e, (after, log)) ∧
        FailedWith e log ∧ (log = [] → ∃ cause, e = .runtime cause) ∧
        (log.getLast?.map Inclusion.after).getD cache = after ∧
        (ScriptedCache cache → Explained files depth r data cache e)) ∧
    (∀ {κ : Type} [TemplateCache κ] {files : Files} {depth : Nat} {c : Compiler} {name : String}
      {data : Json} {cache after : Option κ} {e : Error}, c.engine = Script.engine →
      includePartial files depth c name data cache = (.fail e, after) →
      c.fetch files name cache = (.error e, after) ∧ Unloadable files c name e ∧
          ((∃ fault, e = .unreadable fault (c.resolve name)) ∨ e = .notText ∨ e.IsSyntax) ∨
        ∃ r looked less, depth = less + 1 ∧ c.fetch files name cache = (.ok r, looked) ∧
          r.render files less data looked = (.fail e, after)) ∧
    ∀ {σ : Type} (reply : String → Json → σ → Outcome String × σ) (script : Script.Tree)
      (dataName : String) (data : Json) (s t : σ) (e : Error),
      ((script.run dataName data).answer reply s = (.fail e, t) ↔
        Script.Raised reply script.outputs ⟨dataName, data⟩ (script.start, s) e t) ∧
      ∀ y, Relation.ReflTransGen (Script.Calls reply script.outputs ⟨dataName, data⟩)
          (script.start, s) y →
        Script.Fails reply script.outputs ⟨dataName, data⟩ y e t →
        (script.run dataName data).answer reply s = (.fail e, t) := by
  refine ⟨?_, ?_, ?_, ?_⟩
  · intro c hengine
    refine ⟨fun source e h => Compiler.compile_error hengine h, fun octets e h => ?_,
      fun octets => ⟨fun h => ?_, c.compileOctets_of_not_isUtf8⟩,
      fun source r h => Compiler.scripted_of_compile hengine h⟩
    · exact (Compiler.compileOctets_error hengine h).imp And.left And.left
    · rcases Compiler.compileOctets_error hengine h with ⟨-, htext⟩ | ⟨⟨cause, near, he⟩, -⟩
      · exact htext
      · cases he
  · intro κ _ files depth r data cache after e hr h
    have hlogged := Renderer.runWith_logged (includePartial files depth) r data cache []
    have hstate := Renderer.state_of_inclusions (includePartial files depth) r data cache
    have hfailed := Renderer.failedWith hr h
    rw [Renderer.render] at h
    rw [h] at hlogged hstate
    refine ⟨_, hlogged, hfailed, fun hnil => ?_, hstate, fun hcache => hr.explained hcache h⟩
    rw [List.nil_append] at hnil
    exact (hnil ▸ hfailed).of_nil
  · intro κ _ files depth c name data cache after e hengine h
    obtain ⟨less, hdepth, ⟨hfetch, hload⟩ | ⟨r, looked, hfetch, hrender⟩⟩ := includePartial_error h
    · exact .inl ⟨hfetch, hload, hload.kind hengine⟩
    · exact .inr ⟨r, looked, less, hdepth, hfetch, hrender⟩
  · intro σ reply script dataName data s t e
    refine ⟨Script.answer_run_eq_fail_iff.trans Script.fails_iff, fun y hreaches hy => ?_⟩
    obtain ⟨z, hz, hraises⟩ := Script.fails_iff.1 hy
    exact Script.answer_run_eq_fail_iff.2 (Script.fails_of_raised ⟨z, hreaches.trans hz, hraises⟩)

/-- Malformed code, octets that are no text, and a script that includes three partials and
then reads a variable that there is not. The first partial is in the cache, the second one
is missing, and the third one and the variable are not reached. -/
theorem errors_keep_kind_missing : ∃ (files : Files) (c : Compiler) (script : Script.Tree)
    (cache : Option Cache),
    (∃ e, c.compile "[[#]]" = .error e ∧ e.IsSyntax) ∧
    c.compileOctets [0xFF] = .error .notText ∧
    let r := Renderer.program (script.run c.config.effectiveDataName) c
    let e := Error.unreadable .notFound "/t/b.ztpl"
    r.render files 1 .null cache = (.fail e, cache) ∧
    ∃ log, r.runWith (fun c => logged (includePartial files 1 c)) .null (cache, []) =
        (.fail e, (cache, log)) ∧
      log.map Inclusion.name = ["a", "b"] ∧ FailedWith e log ∧ Explained files 1 r .null cache e ∧
      Script.Raised (includePartial files 1 c) script.outputs ⟨c.config.effectiveDataName, .null⟩
        (script.start, cache) e cache := by
  let files : Files := ⟨"/t", []⟩
  let c : Compiler := ⟨{ Config.standard with basePath := some "/t" }, Script.engine, true⟩
  let call (name : String) : Script.Expr := .call (.ident "include") [.literal (.string name)]
  let script : Script.Tree :=
    ⟨[.expr (.array [call "a", call "b", call "c"]), .expr (.ident "nope")], []⟩
  let cache : Option Cache := some (.memory ⟨[("a", "/t/a.ztpl", .fixed "A")]⟩)
  let r : Renderer := .program (script.run c.config.effectiveDataName) c
  have hengine : c.engine = Script.engine := rfl
  have hscripted : r.Scripted := ⟨hengine, script, rfl⟩
  have hcache : ScriptedCache cache := by
    intro live hlive
    obtain rfl := Option.some.inj hlive
    refine Cache.gives fun entry hentry => ?_
    obtain rfl : entry = ("a", .fixed "A") := by simpa [Cache.entries] using hentry
    trivial
  have hfail : r.render files 1 .null cache =
      (.fail (.unreadable .notFound "/t/b.ztpl"), cache) := by
    simp only [r, files, c, script, cache, call]
    rfl
  have hnames : (r.inclusions (includePartial files 1) .null cache).map Inclusion.name =
      ["a", "b"] := by
    simp only [r, files, c, script, cache, call]
    rfl
  have hmalformed : (c.compile "[[#]]").isOk = false := by decide +kernel
  have hoctets : ¬ Text.IsUtf8 [0xFF] := Text.ofUtf8?_eq_none_iff.1 (by decide)
  obtain ⟨hcompile, hrender, -, hfirst⟩ := errors_keep_kind
  obtain ⟨hkind, -, htext, -⟩ := hcompile hengine
  obtain ⟨log, hlogged, hfailed, -, -, hexplained⟩ := hrender hscripted hfail
  have hlog : r.inclusions (includePartial files 1) .null cache = log := by
    have heq := Renderer.runWith_logged (includePartial files 1) r .null cache []
    rw [hlogged] at heq
    exact (congrArg (fun x => x.2.2) heq).symm
  refine ⟨files, c, script, cache, ?_, (htext _).2 hoctets, hfail, log, hlogged, hlog ▸ hnames,
    hfailed, hexplained hcache, (hfirst _ script _ .null cache cache _).1.1 hfail⟩
  cases h : c.compile "[[#]]" with
  | error e => exact ⟨e, rfl, hkind _ _ h⟩
  | ok r =>
    rw [h] at hmalformed
    cases hmalformed

end Stencil
