import Stencil.Proofs.Rendering

/-!
# Stencil.Proofs.Inclusions

The partials that a rendering asks for, in order, while its requests are answered
(`inclusions`). Writing them down on the way changes nothing (`answer_logged`), and
nothing but they change the state (`answered_inclusions`).

A rendering that hands on the errors of its partials, and whose own ones are errors of
running (`Forwards`), fails with one of its own only if all its partials were rendered,
and otherwise with the error of the last of them, after which it asks for nothing
(`Forwards.failedWith`).
-/

namespace Stencil.Rendering

variable {α β σ : Type}

/-- A partial that was asked for: the state before, how its rendering ended, and the state
after it. -/
structure Inclusion (σ : Type) where
  name : String
  data : Json
  before : σ
  outcome : Outcome String
  after : σ

/-- The partial was rendered. -/
def Inclusion.Rendered (i : Inclusion σ) : Prop := ∃ text, i.outcome = .done text

/-- The partials that a rendering asks for. -/
def inclusions (reply : String → Json → σ → Outcome String × σ) :
    Rendering α → σ → List (Inclusion σ)
  | .done _, _ => []
  | .fail _, _ => []
  | .request name data resume, s =>
    let (o, t) := reply name data s
    ⟨name, data, s, o, t⟩ ::
      match o with
      | .done text => inclusions reply (resume (.ok text)) t
      | .fail e => inclusions reply (resume (.error e)) t
      | .tooDeep => []

/-- Answers as `reply` does, and writes each request down with its answer. -/
def logged (reply : String → Json → σ → Outcome String × σ) (name : String) (data : Json)
    (s : σ × List (Inclusion σ)) : Outcome String × (σ × List (Inclusion σ)) :=
  let (o, t) := reply name data s.1
  (o, (t, s.2 ++ [⟨name, data, s.1, o, t⟩]))

section
variable {reply : String → Json → σ → Outcome String × σ}

/-- What is written down is what is asked for, and nothing else changes. -/
theorem answer_logged (r : Rendering α) (s : σ) (log : List (Inclusion σ)) :
    r.answer (logged reply) (s, log) =
      ((r.answer reply s).1, ((r.answer reply s).2, log ++ r.inclusions reply s)) := by
  induction r generalizing s log with
  | done a => simp [answer, inclusions]
  | fail e => simp [answer, inclusions]
  | request name data resume ih =>
    simp only [answer, logged, inclusions]
    rcases reply name data s with ⟨o, t⟩
    cases o with
    | done text => simp [ih]
    | fail e => simp [ih]
    | tooDeep => rfl

/-- The partials were answered one after the other, on the way from one state to another. -/
inductive Answered (reply : String → Json → σ → Outcome String × σ) :
    σ → List (Inclusion σ) → σ → Prop where
  | nil {s : σ} : Answered reply s [] s
  | cons {name : String} {data : Json} {s t u : σ} {o : Outcome String}
    {rest : List (Inclusion σ)} :
    reply name data s = (o, t) → Answered reply t rest u →
    Answered reply s (⟨name, data, s, o, t⟩ :: rest) u

/-- Only partials change the state. -/
theorem answered_inclusions (r : Rendering α) (s : σ) :
    Answered reply s (r.inclusions reply s) (r.answer reply s).2 := by
  induction r generalizing s with
  | done a => exact .nil
  | fail e => exact .nil
  | request name data resume ih =>
    rw [answer, inclusions]
    rcases hreply : reply name data s with ⟨o, t⟩
    cases o with
    | done text => exact .cons hreply (ih _ t)
    | fail e => exact .cons hreply (ih _ t)
    | tooDeep => exact .cons hreply .nil

/-- Each partial was answered in the state before it. -/
theorem Answered.reply_eq {s t : σ} {log : List (Inclusion σ)} (h : Answered reply s log t)
    {i : Inclusion σ} (hi : i ∈ log) : reply i.name i.data i.before = (i.outcome, i.after) := by
  induction h with
  | nil => cases hi
  | cons hreply _ ih =>
    rcases List.mem_cons.1 hi with rfl | hi
    · exact hreply
    · exact ih hi

/-- The state at the end is the one that the last partial left. -/
theorem Answered.state_eq {s t : σ} {log : List (Inclusion σ)} (h : Answered reply s log t) :
    (log.getLast?.map Inclusion.after).getD s = t := by
  induction h with
  | nil => rfl
  | @cons name data s t u o rest _ hrest ih =>
    cases hrest with
    | nil => rfl
    | cons _ _ =>
      rw [List.getLast?_cons_cons]
      rw [List.getLast?_cons, Option.map_some, Option.getD_some] at ih ⊢
      exact ih

/-- What every answer keeps holds before each of the partials. -/
theorem Answered.keeps {I : σ → Prop} (hkeeps : ∀ name data s, I s → I (reply name data s).2)
    {s t : σ} {log : List (Inclusion σ)} (h : Answered reply s log t) (hs : I s)
    {i : Inclusion σ} (hi : i ∈ log) : I i.before := by
  induction h with
  | nil => cases hi
  | @cons name data s t u o rest hreply _ ih =>
    rcases List.mem_cons.1 hi with rfl | hi
    · exact hs
    · have hafter := hkeeps name data s hs
      rw [hreply] at hafter
      exact ih hafter hi

end

/-! ## errors that are handed on -/

/-- The error of a partial is handed on at once, and all other errors are errors of
running. -/
def Forwards : Rendering α → Prop
  | .done _ => True
  | .fail e => ∃ cause, e = .runtime cause
  | .request _ _ resume =>
    (∀ e, resume (.error e) = .fail e) ∧ ∀ text, Forwards (resume (.ok text))

theorem Forwards.bind {r : Rendering α} {f : α → Rendering β} (h : r.Forwards)
    (hf : ∀ a, (f a).Forwards) : (r >>= f).Forwards := by
  induction r with
  | done a => exact hf a
  | fail e => exact h
  | request name data resume ih =>
    refine ⟨fun e => ?_, fun text => ih _ (h.2 text)⟩
    change (resume (.error e) >>= f) = .fail e
    rw [h.1 e, fail_bind]

theorem forwards_includeText (name : String) (data : Json) : (includeText name data).Forwards :=
  ⟨fun _ => rfl, fun _ => trivial⟩

/-- The error that partials and a rendering of its own can end with: its own one after
partials that were all rendered, or that of the last partial. -/
inductive FailedWith (e : Error) : List (Inclusion σ) → Prop where
  | own {cause : Script.RuntimeCause} {log : List (Inclusion σ)} :
    e = .runtime cause → (∀ i ∈ log, i.Rendered) → FailedWith e log
  | handedOn {earlier : List (Inclusion σ)} {last : Inclusion σ} :
    (∀ i ∈ earlier, i.Rendered) → last.outcome = .fail e → FailedWith e (earlier ++ [last])

theorem FailedWith.cons {e : Error} {i : Inclusion σ} {log : List (Inclusion σ)}
    (h : FailedWith e log) (hi : i.Rendered) : FailedWith e (i :: log) := by
  cases h with
  | own he hlog => exact .own he (List.forall_mem_cons.2 ⟨hi, hlog⟩)
  | @handedOn earlier last hearlier hlast =>
    rw [← List.cons_append]
    exact .handedOn (List.forall_mem_cons.2 ⟨hi, hearlier⟩) hlast

/-- A rendering that asked for nothing fails with an error of its own. -/
theorem FailedWith.of_nil {e : Error} (h : FailedWith e ([] : List (Inclusion σ))) :
    ∃ cause, e = .runtime cause := by
  generalize hlog : ([] : List (Inclusion σ)) = log at h
  cases h with
  | own he _ => exact ⟨_, he⟩
  | handedOn _ _ => simp at hlog

theorem Forwards.failedWith {reply : String → Json → σ → Outcome String × σ} {r : Rendering α}
    (h : r.Forwards) {s t : σ} {e : Error} (hfail : r.answer reply s = (.fail e, t)) :
    FailedWith e (r.inclusions reply s) := by
  induction r generalizing s with
  | done a => simp [answer] at hfail
  | fail e' =>
    obtain ⟨rfl, -⟩ : e' = e ∧ s = t := by simpa [answer] using hfail
    obtain ⟨cause, hcause⟩ := h
    exact .own hcause (by simp [inclusions])
  | request name data resume ih =>
    rw [answer] at hfail
    rw [inclusions]
    rcases hreply : reply name data s with ⟨o, u⟩
    rw [hreply] at hfail
    cases o with
    | done text => exact (ih _ (h.2 text) hfail).cons ⟨text, rfl⟩
    | fail e' =>
      dsimp only at hfail ⊢
      rw [h.1 e'] at hfail ⊢
      obtain ⟨rfl, -⟩ : e' = e ∧ u = t := by simpa [answer] using hfail
      exact .handedOn (List.forall_mem_nil _) rfl
    | tooDeep => simp at hfail

end Stencil.Rendering
