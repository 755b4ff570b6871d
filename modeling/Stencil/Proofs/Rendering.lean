import Stencil.Rendering

/-!
# Stencil.Proofs.Rendering

What holds of a rendering however its requests are answered. `All P` says that
whatever the rendering gives has the property `P`, and `Alike` that two renderings
cannot be told apart by the requests that they make.
-/

namespace Stencil.Rendering

variable {α β σ : Type} {P : α → Prop} {Q : β → Prop}

/-- Whatever the rendering gives has the property `P`. -/
def All (P : α → Prop) : Rendering α → Prop
  | .done a => P a
  | .fail _ => True
  | .request _ _ resume => ∀ reply, All P (resume reply)

theorem All.imp {P' : α → Prop} {r : Rendering α} (h : r.All P) (himp : ∀ a, P a → P' a) :
    r.All P' := by
  induction r with
  | done a => exact himp a h
  | fail e => trivial
  | request name data resume ih => exact fun reply => ih reply (h reply)

theorem all_true (r : Rendering α) : r.All fun _ => True := by
  induction r with
  | done a => trivial
  | fail e => trivial
  | request name data resume ih => exact ih

theorem All.bind {r : Rendering α} {f : α → Rendering β} (h : r.All P)
    (hf : ∀ a, P a → (f a).All Q) : (r >>= f).All Q := by
  induction r with
  | done a => exact hf a h
  | fail e => trivial
  | request name data resume ih => exact fun reply => ih reply (h reply)

/-- How a rendering goes on matters for what it can give only. -/
theorem All.bind_congr {r : Rendering α} {f g : α → Rendering β} (h : r.All P)
    (hfg : ∀ a, P a → f a = g a) : r >>= f = r >>= g := by
  induction r with
  | done a => exact hfg a h
  | fail e => rfl
  | request name data resume ih =>
    rw [request_bind, request_bind]
    congr 1
    funext reply
    exact ih reply (h reply)

/-! ## answers -/

/-- The outcome with another result. -/
def Outcome.map (f : α → β) : Outcome α → Outcome β
  | .done a => .done (f a)
  | .fail e => .fail e
  | .tooDeep => .tooDeep

/-- Requests are answered alike, whatever is made of the result. -/
theorem answer_map (reply : String → Json → σ → Outcome String × σ) (f : α → β)
    (r : Rendering α) (s : σ) :
    (f <$> r).answer reply s = ((r.answer reply s).1.map f, (r.answer reply s).2) := by
  rw [map_eq_pure_bind]
  induction r generalizing s with
  | done a => rfl
  | fail e => rfl
  | request name data resume ih =>
    rw [request_bind, answer, answer]
    rcases reply name data s with ⟨o, s'⟩
    cases o with
    | done text => exact ih _ s'
    | fail e => exact ih _ s'
    | tooDeep => rfl

/-- What comes after a rendering that gives a result is answered from where that left off. -/
theorem answer_bind {reply : String → Json → σ → Outcome String × σ} {r : Rendering α} {a : α}
    {s s' : σ} (h : r.answer reply s = (.done a, s')) (f : α → Rendering β) :
    (r >>= f).answer reply s = (f a).answer reply s' := by
  induction r generalizing s with
  | done b =>
    obtain ⟨rfl, rfl⟩ : b = a ∧ s = s' := by simpa [answer] using h
    rfl
  | fail e => simp [answer] at h
  | request name data resume ih =>
    rw [answer] at h
    rw [request_bind, answer]
    rcases hreply : reply name data s with ⟨o, t⟩
    rw [hreply] at h
    cases o with
    | done text => exact ih _ h
    | fail e => exact ih _ h
    | tooDeep => simp at h

/-- A rendering that goes on to a result gives one before. -/
theorem exists_of_answer_bind {reply : String → Json → σ → Outcome String × σ} {r : Rendering α}
    {f : α → Rendering β} {b : β} {s t : σ} (h : (r >>= f).answer reply s = (.done b, t)) :
    ∃ a s', r.answer reply s = (.done a, s') ∧ (f a).answer reply s' = (.done b, t) := by
  induction r generalizing s with
  | done a => exact ⟨a, s, rfl, h⟩
  | fail e => simp [answer] at h
  | request name data resume ih =>
    rw [request_bind, answer] at h
    rw [answer]
    rcases hreply : reply name data s with ⟨o, s'⟩
    rw [hreply] at h
    cases o with
    | done text => exact ih _ h
    | fail e => exact ih _ h
    | tooDeep => simp at h

/-- A rendering that goes on fails where it fails before or afterwards. -/
theorem answer_bind_eq_fail_iff {reply : String → Json → σ → Outcome String × σ} {r : Rendering α}
    {f : α → Rendering β} {e : Error} {s t : σ} :
    (r >>= f).answer reply s = (.fail e, t) ↔ r.answer reply s = (.fail e, t) ∨
      ∃ a s', r.answer reply s = (.done a, s') ∧ (f a).answer reply s' = (.fail e, t) := by
  induction r generalizing s with
  | done a =>
    constructor
    · exact fun h => .inr ⟨a, s, rfl, h⟩
    · rintro (h | ⟨b, s', h, hf⟩)
      · simp [answer] at h
      · obtain ⟨rfl, rfl⟩ : a = b ∧ s = s' := by simpa [answer] using h
        exact hf
  | fail e' => simp [answer]
  | request name data resume ih =>
    rw [request_bind, answer, answer]
    rcases reply name data s with ⟨o, s'⟩
    cases o with
    | done text => exact ih _
    | fail e' => exact ih _
    | tooDeep => simp

/-- What is there already does not fail. -/
theorem answer_pure_ne_fail {reply : String → Json → σ → Outcome String × σ} {a : α} {e : Error}
    {s t : σ} : (pure a : Rendering α).answer reply s ≠ (.fail e, t) := by
  simp [pure, answer]

/-- What is made of a value does not fail. -/
theorem answer_bind_pure_eq_fail_iff {reply : String → Json → σ → Outcome String × σ}
    {r : Rendering α} {f : α → β} {e : Error} {s t : σ} :
    (r >>= fun a => pure (f a)).answer reply s = (.fail e, t) ↔
      r.answer reply s = (.fail e, t) := by
  rw [answer_bind_eq_fail_iff]
  constructor
  · rintro (h | ⟨a, s', -, h⟩)
    · exact h
    · exact absurd h answer_pure_ne_fail
  · exact .inl

/-- Renderings one after the other fail where the first of them does, after the results of
those in front. -/
theorem answer_mapM_eq_fail_iff {reply : String → Json → σ → Outcome String × σ}
    {f : α → Rendering β} {as : List α} {e : Error} {s t : σ} :
    (as.mapM f).answer reply s = (.fail e, t) ↔ ∃ front a back bs s', as = front ++ a :: back ∧
      (front.mapM f).answer reply s = (.done bs, s') ∧ (f a).answer reply s' = (.fail e, t) := by
  induction as generalizing s with
  | nil =>
    simpa using answer_pure_ne_fail
  | cons a as ih =>
    rw [List.mapM_cons, answer_bind_eq_fail_iff]
    constructor
    · rintro (h | ⟨b, s₁, ha, hrest⟩)
      · exact ⟨[], a, as, [], s, rfl, rfl, h⟩
      · have h := answer_bind_pure_eq_fail_iff.1 hrest
        obtain ⟨front, a', back, bs, s₂, rfl, hfront, hfail⟩ := ih.1 h
        refine ⟨a :: front, a', back, b :: bs, s₂, rfl, ?_, hfail⟩
        rw [List.mapM_cons, answer_bind ha, answer_bind hfront]
        rfl
    · rintro ⟨front, a', back, bs, s₂, heq, hfront, hfail⟩
      cases front with
      | nil =>
        obtain ⟨rfl, rfl⟩ := List.cons.inj heq
        obtain ⟨-, rfl⟩ := Prod.mk.inj hfront
        exact .inl hfail
      | cons a₀ front =>
        obtain ⟨rfl, rfl⟩ := List.cons.inj heq
        rw [List.mapM_cons] at hfront
        obtain ⟨b, s₁, ha, hrest⟩ := exists_of_answer_bind hfront
        obtain ⟨bs', s₂', hbs, hpure⟩ := exists_of_answer_bind hrest
        obtain ⟨-, rfl⟩ := Prod.mk.inj hpure
        exact .inr ⟨b, s₁, ha, answer_bind_pure_eq_fail_iff.2
          (ih.2 ⟨front, a', back, bs', s₂', rfl, hbs, hfail⟩)⟩

/-- What holds of whatever a rendering gives holds of its result. -/
theorem All.of_answer {reply : String → Json → σ → Outcome String × σ} {r : Rendering α} {a : α}
    {s s' : σ} (h : r.All P) (hanswer : r.answer reply s = (.done a, s')) : P a := by
  induction r generalizing s with
  | done b =>
    obtain ⟨rfl, -⟩ : b = a ∧ s = s' := by simpa [answer] using hanswer
    exact h
  | fail e => simp [answer] at hanswer
  | request name data resume ih =>
    rw [answer] at hanswer
    rcases hreply : reply name data s with ⟨o, t⟩
    rw [hreply] at hanswer
    cases o with
    | done text => exact ih _ (h _) hanswer
    | fail e => exact ih _ (h _) hanswer
    | tooDeep => simp at hanswer

/-! ## renderings that go alike -/

/-- Two renderings ask for the same partials and go on alike with every reply. What they
give is related by `R`, and the errors that they fail with by `E`. -/
inductive Alike (E : Error → Error → Prop) (R : α → β → Prop) :
    Rendering α → Rendering β → Prop where
  | done {a : α} {b : β} : R a b → Alike E R (.done a) (.done b)
  | fail {e e' : Error} : E e e' → Alike E R (.fail e) (.fail e')
  | request {name : String} {data : Json} {resume : Except Error String → Rendering α}
    {resume' : Except Error String → Rendering β} :
    (∀ reply, Alike E R (resume reply) (resume' reply)) →
    Alike E R (.request name data resume) (.request name data resume')

/-- Two outcomes are of one kind, and what is given or failed with is related. -/
inductive Outcome.Alike (E : Error → Error → Prop) (R : α → β → Prop) :
    Outcome α → Outcome β → Prop where
  | done {a : α} {b : β} : R a b → Outcome.Alike E R (.done a) (.done b)
  | fail {e e' : Error} : E e e' → Outcome.Alike E R (.fail e) (.fail e')
  | tooDeep : Outcome.Alike E R .tooDeep .tooDeep

namespace Alike

variable {γ δ : Type} {E : Error → Error → Prop} {R : α → β → Prop} {S : γ → δ → Prop}

theorem refl (hE : ∀ e, E e e) (r : Rendering α) : Alike E (· = ·) r r := by
  induction r with
  | done a => exact .done rfl
  | fail e => exact .fail (hE e)
  | request name data resume ih => exact .request ih

theorem bind {r : Rendering α} {r' : Rendering β} {f : α → Rendering γ} {g : β → Rendering δ}
    (h : Alike E R r r') (hfg : ∀ a b, R a b → Alike E S (f a) (g b)) :
    Alike E S (r >>= f) (r' >>= g) := by
  induction h with
  | done hab => exact hfg _ _ hab
  | fail he => exact .fail he
  | request _ ih => exact .request ih

/-- Going on alike after the same result. -/
theorem bind_eq {f g : α → Rendering γ} {T : γ → γ → Prop} {r r' : Rendering α}
    (h : Alike E (· = ·) r r') (hfg : ∀ a, Alike E T (f a) (g a)) :
    Alike E T (r >>= f) (r' >>= g) := by
  refine h.bind fun a b hab => ?_
  rw [← hab]
  exact hfg a

/-- Renderings that go alike end alike, and leave the same state. -/
theorem answer {r : Rendering α} {r' : Rendering β} (h : Alike E R r r')
    (reply : String → Json → σ → Outcome String × σ) (s : σ) :
    Outcome.Alike E R (r.answer reply s).1 (r'.answer reply s).1 ∧
      (r'.answer reply s).2 = (r.answer reply s).2 := by
  induction h generalizing s with
  | done hab => exact ⟨.done hab, rfl⟩
  | fail he => exact ⟨.fail he, rfl⟩
  | @request name data resume resume' _ ih =>
    rw [Rendering.answer, Rendering.answer]
    rcases reply name data s with ⟨o, t⟩
    cases o with
    | done text => exact ih _ t
    | fail e => exact ih _ t
    | tooDeep => exact ⟨.tooDeep, rfl⟩

end Alike

end Stencil.Rendering
