import Stencil.Include

/-!
# Stencil.Proofs.Answering

What the result of a rendering depends on. A rendering asks for partials and
nothing else, so two ways of answering its requests can be compared request by
request:

* `answer_matches` — answers that are equal, whatever their states are, give
  equal results, and `answer_keeps` — what every answer keeps is kept;
* `answer_agrees` — answers that differ only where the first one was too deep
  differ in the result only where the first result was too deep.

`Renderer.runWith` and `runCompiled` inherit them. The first is taken up to
whether a compiler uses a cache, since that is what a cached renderer and a
fresh one may differ in.
-/

namespace Stencil

open Rendering (Outcome)

variable {α σ τ : Type}

namespace Rendering

/-! ## equal answers -/

/-- Two results are the same, and what is left behind is related by `R`. -/
def Matches (R : σ → τ → Prop) (x : Outcome α × σ) (y : Outcome α × τ) : Prop :=
  x.1 = y.1 ∧ R x.2 y.2

/-- Requests that are answered alike make renderings end alike. -/
theorem answer_matches {R : σ → τ → Prop} {f : String → Json → σ → Outcome String × σ}
    {g : String → Json → τ → Outcome String × τ}
    (h : ∀ name data s t, R s t → Matches R (f name data s) (g name data t))
    (r : Rendering α) {s : σ} {t : τ} (hR : R s t) :
    Matches R (r.answer f s) (r.answer g t) := by
  induction r generalizing s t with
  | done a => exact ⟨rfl, hR⟩
  | fail e => exact ⟨rfl, hR⟩
  | request name data resume ih =>
    obtain ⟨ho, hs⟩ := h name data s t hR
    simp only [answer]
    rcases hf : f name data s with ⟨o, s'⟩
    rcases hg : g name data t with ⟨o', t'⟩
    rw [hf, hg] at ho hs
    obtain rfl : o = o' := ho
    cases o with
    | done text => exact ih _ hs
    | fail e => exact ih _ hs
    | tooDeep => exact ⟨rfl, hs⟩

/-- What holds of the state and is kept by every answer holds in the end. -/
theorem answer_keeps {I : σ → Prop} {f : String → Json → σ → Outcome String × σ}
    (h : ∀ name data s, I s → I (f name data s).2) (r : Rendering α) {s : σ} (hs : I s) :
    I (r.answer f s).2 := by
  have hmatches : Matches (fun s t => I s ∧ s = t) (r.answer f s) (r.answer f s) := by
    refine answer_matches (fun name data s t hst => ?_) r ⟨hs, rfl⟩
    obtain ⟨hs, rfl⟩ := hst
    exact ⟨rfl, h name data s hs, rfl⟩
  exact hmatches.2.1

/-- A rendering that is nothing but a partial ends as the partial does. -/
theorem answer_includeText (reply : String → Json → σ → Outcome String × σ) (name : String)
    (data : Json) (s : σ) : (includeText name data).answer reply s = reply name data s := by
  rw [includeText, answer]
  rcases reply name data s with ⟨outcome, after⟩
  cases outcome <;> rfl

/-! ## answers that go deeper -/

/-- `g` answers as `f` does wherever `f` is not too deep. -/
def Agrees (g f : String → Json → σ → Outcome String × σ) : Prop :=
  ∀ name data s, (f name data s).1 ≠ .tooDeep → g name data s = f name data s

theorem answer_agrees {g f : String → Json → σ → Outcome String × σ} (h : Agrees g f)
    (r : Rendering α) (s : σ) (hr : (r.answer f s).1 ≠ .tooDeep) :
    r.answer g s = r.answer f s := by
  induction r generalizing s with
  | done a => rfl
  | fail e => rfl
  | request name data resume ih =>
    simp only [answer] at hr ⊢
    have hf : (f name data s).1 ≠ .tooDeep := by
      intro ho
      rcases hfs : f name data s with ⟨o, s'⟩
      rw [hfs] at ho hr
      obtain rfl : o = .tooDeep := ho
      exact hr rfl
    rw [h name data s hf]
    rcases hfs : f name data s with ⟨o, s'⟩
    rw [hfs] at hr
    cases o with
    | done text => exact ih _ _ hr
    | fail e => exact ih _ _ hr
    | tooDeep => rfl

end Rendering

open Rendering (Matches Agrees answer_matches answer_keeps answer_agrees)

/-! ## renderers -/

/-- A renderer whose partials are compiled without a cache. -/
def Renderer.uncached : Renderer → Renderer
  | .fixed source => .fixed source
  | .program run compiler => .program run compiler.uncached

/-- A renderer keeps the compiler `base`, but for the use of a cache. -/
def Renderer.Keeps (base : Compiler) : Renderer → Prop
  | .fixed _ => True
  | .program _ compiler => compiler.uncached = base.uncached

/-- The compiler that a renderer keeps, if it keeps one, has the property. -/
def Renderer.Runs (P : Compiler → Prop) : Renderer → Prop
  | .fixed _ => True
  | .program _ compiler => P compiler

theorem Renderer.Runs.imp {P Q : Compiler → Prop} {r : Renderer} (hr : r.Runs P)
    (h : ∀ c, P c → Q c) : r.Runs Q := by
  cases r with
  | fixed source => trivial
  | program run compiler => exact h compiler hr

theorem Renderer.Runs.keeps {c : Compiler} {r : Renderer} (hr : r.Runs (· = c)) : r.Keeps c := by
  cases r with
  | fixed source => trivial
  | program run compiler => exact congrArg Compiler.uncached hr

theorem Renderer.Keeps.congr {c d : Compiler} {r : Renderer} (hr : r.Keeps c)
    (h : c.uncached = d.uncached) : r.Keeps d := by
  cases r with
  | fixed source => trivial
  | program run compiler => exact Eq.trans hr h

section
variable {base : Compiler} {R : σ → τ → Prop}
  {f : Compiler → String → Json → σ → Outcome String × σ}
  {g : Compiler → String → Json → τ → Outcome String × τ}

theorem Renderer.runWith_matches
    (h : ∀ c d : Compiler, c.uncached = base.uncached → d.uncached = base.uncached →
      ∀ name data s t, R s t → Matches R (f c name data s) (g d name data t))
    {q r : Renderer} (hqr : q.uncached = r.uncached) (hr : r.Keeps base) (data : Json)
    {s : σ} {t : τ} (hR : R s t) :
    Matches R (q.runWith f data s) (r.runWith g data t) := by
  cases q with
  | fixed source =>
    cases r with
    | fixed source' =>
      obtain rfl : source = source' := by injection hqr
      exact ⟨rfl, hR⟩
    | program run compiler => cases hqr
  | program run compiler =>
    cases r with
    | fixed source => cases hqr
    | program run' compiler' =>
      obtain ⟨rfl, hc⟩ : run = run' ∧ compiler.uncached = compiler'.uncached := by
        injection hqr with h₁ h₂
        exact ⟨h₁, h₂⟩
      exact answer_matches (h compiler compiler' (hc.trans hr) hr) (run data) hR

theorem runCompiled_matches
    (h : ∀ c d : Compiler, c.uncached = base.uncached → d.uncached = base.uncached →
      ∀ name data s t, R s t → Matches R (f c name data s) (g d name data t))
    {x y : Except Error Renderer} (hxy : x.map Renderer.uncached = y.map Renderer.uncached)
    (hy : ∀ r, y = .ok r → r.Keeps base) (data : Json) {s : σ} {t : τ} (hR : R s t) :
    Matches R (runCompiled f x data s) (runCompiled g y data t) := by
  cases x with
  | error e =>
    cases y with
    | error e' =>
      obtain rfl : e = e' := by injection hxy
      exact ⟨rfl, hR⟩
    | ok r => cases hxy
  | ok q =>
    cases y with
    | error e => cases hxy
    | ok r =>
      have hqr : q.uncached = r.uncached := by injection hxy
      exact Renderer.runWith_matches h hqr (hy r rfl) data hR

end

/-- Requests that are answered alike for every compiler make what was compiled end alike. -/
theorem runCompiled_matches_self {R : σ → τ → Prop}
    {f : Compiler → String → Json → σ → Outcome String × σ}
    {g : Compiler → String → Json → τ → Outcome String × τ}
    (h : ∀ c name data s t, R s t → Matches R (f c name data s) (g c name data t))
    (compiled : Except Error Renderer) (data : Json) {s : σ} {t : τ} (hR : R s t) :
    Matches R (runCompiled f compiled data s) (runCompiled g compiled data t) := by
  cases compiled with
  | error e => exact ⟨rfl, hR⟩
  | ok r =>
    cases r with
    | fixed source => exact ⟨rfl, hR⟩
    | program run compiler => exact answer_matches (h compiler) (run data) hR

/-- What every answer to the partials of a renderer keeps, running the renderer keeps. -/
theorem runCompiled_keeps {P : Compiler → Prop} {I : σ → Prop}
    {f : Compiler → String → Json → σ → Outcome String × σ}
    (h : ∀ c, P c → ∀ name data s, I s → I (f c name data s).2)
    {compiled : Except Error Renderer} (hr : ∀ r, compiled = .ok r → r.Runs P) (data : Json) {s : σ}
    (hs : I s) : I (runCompiled f compiled data s).2 := by
  cases compiled with
  | error e => exact hs
  | ok r =>
    cases r with
    | fixed source => exact hs
    | program run compiler => exact answer_keeps (h compiler (hr _ rfl)) (run data) hs

theorem runCompiled_agrees {g f : Compiler → String → Json → σ → Outcome String × σ}
    (h : ∀ c, Agrees (g c) (f c)) (compiled : Except Error Renderer) (data : Json) (s : σ)
    (hr : (runCompiled f compiled data s).1 ≠ .tooDeep) :
    runCompiled g compiled data s = runCompiled f compiled data s := by
  cases compiled with
  | error e => rfl
  | ok r =>
    cases r with
    | fixed source => rfl
    | program run compiler => exact answer_agrees (h compiler) (run data) s hr

end Stencil
