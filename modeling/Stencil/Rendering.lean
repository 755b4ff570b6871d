import Stencil.Error
import Stencil.Json.Basic

/-!
# Stencil.Rendering

A rendering in progress. All that a running template can ask of the outside is
the text of a partial, so a rendering is finished, has failed, or waits for a
partial and says how it goes on with the text or with the error that comes
back. Where partials come from is decided by whoever answers (`answer`);
nothing that a template does depends on it in any other way.
-/

namespace Stencil

/-- A rendering that gives an `α`. -/
inductive Rendering (α : Type) where
  | done (a : α)
  | fail (e : Error)
  /-- Waits for the partial `name` rendered with `data`. -/
  | request (name : String) (data : Json) (resume : Except Error String → Rendering α)

namespace Rendering

/-- Goes on with the result of a rendering. -/
def bind {α β : Type} : Rendering α → (α → Rendering β) → Rendering β
  | .done a, f => f a
  | .fail e, _ => .fail e
  | .request name data resume, f => .request name data fun reply => bind (resume reply) f

instance : Monad Rendering where
  pure := .done
  bind := bind

instance {α : Type} : Inhabited (Rendering α) := ⟨.fail .notText⟩

/-- A result that is there already, or an error. -/
def ofExcept {α : Type} : Except Error α → Rendering α
  | .ok a => .done a
  | .error e => .fail e

/-- The text of a partial. Its error is the error of the rendering. -/
def includeText (name : String) (data : Json) : Rendering String := .request name data ofExcept

/-- How a rendering ends. -/
inductive Outcome (α : Type) where
  | done (a : α)
  | fail (e : Error)
  /-- Partials include each other more deeply than is answered. -/
  | tooDeep
  deriving DecidableEq, Repr

/-- The end of a rendering whose requests are answered one after the other; the
answer to each may depend on, and change, a state. -/
def answer {α σ : Type} (reply : String → Json → σ → Outcome String × σ) :
    Rendering α → σ → Outcome α × σ
  | .done a, s => (.done a, s)
  | .fail e, s => (.fail e, s)
  | .request name data resume, s =>
    match reply name data s with
    | (.done text, s) => answer reply (resume (.ok text)) s
    | (.fail e, s) => answer reply (resume (.error e)) s
    | (.tooDeep, s) => (.tooDeep, s)

/-! ## laws -/

@[simp] theorem done_bind {α β : Type} (a : α) (f : α → Rendering β) :
    (Rendering.done a >>= f) = f a := rfl

@[simp] theorem fail_bind {α β : Type} (e : Error) (f : α → Rendering β) :
    (Rendering.fail e >>= f) = .fail e := rfl

@[simp] theorem request_bind {α β : Type} (name : String) (data : Json)
    (resume : Except Error String → Rendering α) (f : α → Rendering β) :
    (Rendering.request name data resume >>= f) =
      .request name data fun reply => resume reply >>= f := rfl

theorem bind_done {α : Type} (r : Rendering α) : (r >>= Rendering.done) = r := by
  induction r with
  | done a => rfl
  | fail e => rfl
  | request name data resume ih => simp [ih]

theorem bind_bind {α β γ : Type} (r : Rendering α) (f : α → Rendering β) (g : β → Rendering γ) :
    (r >>= f >>= g) = r >>= fun a => f a >>= g := by
  induction r with
  | done a => rfl
  | fail e => rfl
  | request name data resume ih => simp [ih]

instance : LawfulMonad Rendering :=
  LawfulMonad.mk' _ bind_done (fun _ _ => rfl) bind_bind

end Rendering

end Stencil
