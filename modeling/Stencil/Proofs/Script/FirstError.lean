import Mathlib.Logic.Relation
import Stencil.Proofs.Rendering
import Stencil.Script.Run

/-!
# Stencil.Proofs.Script.FirstError

The first error in the order of evaluation ends a run. A run is made of tasks: the
evaluation of an expression, of the rest of a list of arguments, the execution of a
statement, of the rest of a list of statements, of the turns of a loop that are left. Each
stands with the state in which it begins.

* `Calls` is the order of evaluation. A task begins with its first part, and goes on to
  the next one only in the state that the one before left when it gave a value.
* `Raises` lists what fails by itself when all of its parts have given values.

A task that comes to something that fails, fails with that error and leaves the state as
it was left there (`fails_of_calls`); and it fails in no other way (`fails_iff`). So
nothing is done after the first error.
-/

namespace Stencil.Script

open Relation (ReflTransGen)
open Rendering (Outcome answer answer_bind answer_bind_eq_fail_iff answer_bind_pure_eq_fail_iff
  answer_pure_ne_fail)

/-- A part of a run. -/
inductive Task where
  | eval (scopes : Scopes) (e : Expr)
  | items (scopes : Scopes) (es : List Expr)
  | entries (scopes : Scopes) (es : List (String × Expr))
  | exec (frame : Frame) (s : Stmt)
  | execAll (frame : Frame) (body : List Stmt)
  | turns (frame : Frame) (name : String) (body : Stmt) (values : List Json)

/-- The frame that statements run with in a scope of their own. -/
def Frame.enter (frame : Frame) (scope : Scope) : Frame :=
  { frame with scopes := scope :: frame.scopes }

/-- The frame that is left when that scope is gone. -/
def Frame.leave (frame : Frame) : Frame := { frame with scopes := frame.scopes.tail }

section
variable {σ : Type} (reply : String → Json → σ → Outcome String × σ) (outputs : List Output)
  (ctx : Context)

/-- A task fails with an error and leaves a state behind. -/
def Fails : Task × σ → Error → σ → Prop
  | (.eval scopes e, s), err, t => (eval ctx scopes e).answer reply s = (.fail err, t)
  | (.items scopes es, s), err, t => (evalItems ctx scopes es).answer reply s = (.fail err, t)
  | (.entries scopes es, s), err, t => (evalEntries ctx scopes es).answer reply s = (.fail err, t)
  | (.exec frame st, s), err, t => (exec outputs ctx st frame).answer reply s = (.fail err, t)
  | (.execAll frame body, s), err, t =>
    (execAll outputs ctx body frame).answer reply s = (.fail err, t)
  | (.turns frame name body values, s), err, t =>
    (turns name (exec outputs ctx body) values frame).answer reply s = (.fail err, t)

/-- The order of evaluation: what a task comes to next, and in which state. -/
inductive Calls : Task × σ → Task × σ → Prop where
  | array {scopes es s} : Calls (.eval scopes (.array es), s) (.items scopes es, s)
  | object {scopes es s} : Calls (.eval scopes (.object es), s) (.entries scopes es, s)
  | firstItem {scopes e rest s} : Calls (.items scopes (e :: rest), s) (.eval scopes e, s)
  | laterItems {scopes e rest s v t} : (eval ctx scopes e).answer reply s = (.done v, t) →
    Calls (.items scopes (e :: rest), s) (.items scopes rest, t)
  | firstEntry {scopes key e rest s} :
    Calls (.entries scopes ((key, e) :: rest), s) (.eval scopes e, s)
  | laterEntries {scopes key e rest s v t} : (eval ctx scopes e).answer reply s = (.done v, t) →
    Calls (.entries scopes ((key, e) :: rest), s) (.entries scopes rest, t)
  | parent {scopes target name s} :
    Calls (.eval scopes (.member target name), s) (.eval scopes target, s)
  /-- The key comes before what it is the key of. -/
  | key {scopes target key s} : Calls (.eval scopes (.index target key), s) (.eval scopes key, s)
  | indexed {scopes target key s v t} : (eval ctx scopes key).answer reply s = (.done v, t) →
    Calls (.eval scopes (.index target key), s) (.eval scopes target, t)
  | arguments {scopes name args s} : isBound ctx scopes name = false →
    Calls (.eval scopes (.call (.ident name) args), s) (.items scopes args, s)
  | receiver {scopes target name args s} :
    Calls (.eval scopes (.call (.member target name) args), s) (.eval scopes target, s)
  | methodArguments {scopes target name args s v t} :
    (eval ctx scopes target).answer reply s = (.done v, t) →
    Calls (.eval scopes (.call (.member target name) args), s) (.items scopes args, t)
  | operand {scopes op e s} : Calls (.eval scopes (.unary op e), s) (.eval scopes e, s)
  | left {scopes op l r s} : Calls (.eval scopes (.binary op l r), s) (.eval scopes l, s)
  | right {scopes op l r s v t} : (eval ctx scopes l).answer reply s = (.done v, t) →
    decides op v = false → Calls (.eval scopes (.binary op l r), s) (.eval scopes r, t)
  | condition {scopes c yes no s} :
    Calls (.eval scopes (.conditional c yes no), s) (.eval scopes c, s)
  | ifTrue {scopes c yes no s v t} : (eval ctx scopes c).answer reply s = (.done v, t) →
    truthy v = true → Calls (.eval scopes (.conditional c yes no), s) (.eval scopes yes, t)
  | ifFalse {scopes c yes no s v t} : (eval ctx scopes c).answer reply s = (.done v, t) →
    truthy v = false → Calls (.eval scopes (.conditional c yes no), s) (.eval scopes no, t)
  | output {frame i e escape trim s} : outputs[i]? = some (.value e escape trim) →
    Calls (.exec frame (.emit i), s) (.eval frame.scopes e, s)
  | effect {frame e s} : Calls (.exec frame (.expr e), s) (.eval frame.scopes e, s)
  | init {frame name e s} :
    Calls (.exec frame (.declare name (some e)), s) (.eval frame.scopes e, s)
  | assigned {frame name op e s} :
    Calls (.exec frame (.assign name op e), s) (.eval frame.scopes e, s)
  | test {frame c yes no s} : Calls (.exec frame (.branch c yes no), s) (.eval frame.scopes c, s)
  | yes {frame c yes no s v t} : (eval ctx frame.scopes c).answer reply s = (.done v, t) →
    truthy v = true → Calls (.exec frame (.branch c yes no), s) (.exec (frame.enter []) yes, t)
  | no {frame c yes no s v t} : (eval ctx frame.scopes c).answer reply s = (.done v, t) →
    truthy v = false →
    Calls (.exec frame (.branch c yes (some no)), s) (.exec (frame.enter []) no, t)
  | sequence {frame name e body s} :
    Calls (.exec frame (.forOf name e body), s) (.eval frame.scopes e, s)
  | itemTurns {frame name e body s v t values} :
    (eval ctx frame.scopes e).answer reply s = (.done v, t) → loopItems v = .ok values →
    Calls (.exec frame (.forOf name e body), s) (.turns frame name body values, t)
  | keyed {frame name e body s} :
    Calls (.exec frame (.forIn name e body), s) (.eval frame.scopes e, s)
  | keyTurns {frame name e body s v t} :
    (eval ctx frame.scopes e).answer reply s = (.done v, t) →
    Calls (.exec frame (.forIn name e body), s) (.turns frame name body (loopKeys v), t)
  | block {frame body s} :
    Calls (.exec frame (.block body), s) (.execAll (frame.enter []) body, s)
  | firstStatement {frame st rest s} : Calls (.execAll frame (st :: rest), s) (.exec frame st, s)
  | laterStatements {frame st rest s after t} :
    (exec outputs ctx st frame).answer reply s = (.done after, t) →
    Calls (.execAll frame (st :: rest), s) (.execAll after rest, t)
  | firstTurn {frame name body v rest s} :
    Calls (.turns frame name body (v :: rest), s) (.exec (frame.enter [(name, v)]) body, s)
  | laterTurns {frame name body v rest s after t} :
    (exec outputs ctx body (frame.enter [(name, v)])).answer reply s = (.done after, t) →
    Calls (.turns frame name body (v :: rest), s) (.turns after.leave name body rest, t)

/-- What fails by itself: all of its parts have given values, or none is evaluated. -/
inductive Raises : Task × σ → Error → σ → Prop where
  | name {scopes name s cause} : nameValue ctx scopes name = .error cause →
    Raises (.eval scopes (.ident name), s) (.runtime cause) s
  | member {scopes target name s v t cause} :
    (eval ctx scopes target).answer reply s = (.done v, t) →
    property v (.string name) = .error cause →
    Raises (.eval scopes (.member target name), s) (.runtime cause) t
  | index {scopes target key s k t v u cause} :
    (eval ctx scopes key).answer reply s = (.done k, t) →
    (eval ctx scopes target).answer reply t = (.done v, u) → property v k = .error cause →
    Raises (.eval scopes (.index target key), s) (.runtime cause) u
  | bound {scopes name args s} : isBound ctx scopes name = true →
    Raises (.eval scopes (.call (.ident name) args), s) (.runtime .notFunction) s
  | unknown {scopes name args s vs t} : isBound ctx scopes name = false →
    (evalItems ctx scopes args).answer reply s = (.done vs, t) → Function.ofName? name = none →
    Raises (.eval scopes (.call (.ident name) args), s) (.runtime (.notDefined name)) t
  /-- The one error that is not made here: the partial's. -/
  | included {scopes name args s vs t err u} : isBound ctx scopes name = false →
    (evalItems ctx scopes args).answer reply s = (.done vs, t) →
    Function.ofName? name = some .includePartial →
    reply (firstText vs) (vs[1]?.getD .null) t = (.fail err, u) →
    Raises (.eval scopes (.call (.ident name) args), s) err u
  | method {scopes target name args s v t vs u cause} :
    (eval ctx scopes target).answer reply s = (.done v, t) →
    (evalItems ctx scopes args).answer reply t = (.done vs, u) →
    callMethod v name vs = .error cause →
    Raises (.eval scopes (.call (.member target name) args), s) (.runtime cause) u
  | callee {scopes callee args s} : (∀ name, callee ≠ .ident name) →
    (∀ target name, callee ≠ .member target name) →
    Raises (.eval scopes (.call callee args), s) (.runtime .notFunction) s
  | undeclared {frame name op e s v t} :
    (eval ctx frame.scopes e).answer reply s = (.done v, t) →
    frame.scopes.update? name (Script.assigned op v) = none →
    Raises (.exec frame (.assign name op e), s) (.runtime (.notDeclared name)) t
  | notIterable {frame name e body s v t cause} :
    (eval ctx frame.scopes e).answer reply s = (.done v, t) → loopItems v = .error cause →
    Raises (.exec frame (.forOf name e body), s) (.runtime cause) t

/-- A task comes to something that raises an error. -/
def Raised (x : Task × σ) (err : Error) (u : σ) : Prop :=
  ∃ y, ReflTransGen (Calls reply outputs ctx) x y ∧ Raises reply ctx y err u

end

section
variable {σ : Type} {reply : String → Json → σ → Outcome String × σ} {outputs : List Output}
  {ctx : Context} {x y : Task × σ} {err : Error} {s t u : σ}

/-- A branch that is not taken does nothing, or what stands behind `else`. -/
theorem exec_branch_eq (c : Expr) (yes : Stmt) (no : Option Stmt) (frame : Frame) :
    exec outputs ctx (.branch c yes no) frame = (do
      let v ← eval ctx frame.scopes c
      if truthy v then inScope [] (exec outputs ctx yes) frame
      else
        match no with
        | some no => inScope [] (exec outputs ctx no) frame
        | none => return frame) := by
  cases no <;> rfl

/-- Failing fails with its cause, and asks for nothing. -/
theorem answer_failWith_eq_fail_iff {α : Type} {cause : RuntimeCause} :
    (failWith cause : Rendering α).answer reply s = (.fail err, t) ↔
      err = .runtime cause ∧ t = s := by
  simp [failWith, answer, eq_comm]

/-- An operation fails with its cause, and asks for nothing. -/
theorem answer_ofResult_eq_fail_iff {α : Type} {r : Except RuntimeCause α} :
    (ofResult r).answer reply s = (.fail err, t) ↔
      ∃ cause, r = .error cause ∧ err = .runtime cause ∧ t = s := by
  cases r with
  | ok a => simp [ofResult, answer]
  | error cause => simp [ofResult, failWith, answer, eq_comm]

/-- The part that comes first fails. -/
theorem fails_first {α β : Type} {r : Rendering α} {f : α → Rendering β}
    (h : r.answer reply s = (.fail err, t)) : (r >>= f).answer reply s = (.fail err, t) :=
  answer_bind_eq_fail_iff.2 (.inl h)

/-- What comes after it fails. -/
theorem fails_later {α β : Type} {r : Rendering α} {f : α → Rendering β} {a : α}
    (h : r.answer reply s = (.done a, t)) (hf : (f a).answer reply t = (.fail err, u)) :
    (r >>= f).answer reply s = (.fail err, u) := (answer_bind h f).trans hf

/-! ## errors are handed on -/

/-- **A part that fails ends the task.** The error and the state are those of the part. -/
theorem fails_of_calls (h : Calls reply outputs ctx x y) (hy : Fails reply outputs ctx y err u) :
    Fails reply outputs ctx x err u := by
  cases h with
  | array => exact fails_first hy
  | object => exact fails_first hy
  | firstItem => exact fails_first hy
  | laterItems hv => exact fails_later hv (fails_first hy)
  | firstEntry => exact fails_first hy
  | laterEntries hv => exact fails_later hv (fails_first hy)
  | parent => exact fails_first hy
  | key => exact fails_first hy
  | indexed hv => exact fails_later hv (fails_first hy)
  | arguments hbound =>
    rw [Fails, eval, hbound, if_neg Bool.false_ne_true]
    exact fails_first hy
  | receiver => exact fails_first hy
  | methodArguments hv => exact fails_later hv (fails_first hy)
  | operand => exact fails_first hy
  | left => exact fails_first hy
  | right hv hdecides =>
    refine fails_later hv ?_
    rw [hdecides, if_neg Bool.false_ne_true]
    exact fails_first hy
  | condition => exact fails_first hy
  | ifTrue hv htrue =>
    refine fails_later hv ?_
    rw [if_pos htrue]
    exact hy
  | ifFalse hv hfalse =>
    refine fails_later hv ?_
    rw [hfalse, if_neg Bool.false_ne_true]
    exact hy
  | output hget =>
    rw [Fails, exec, hget]
    exact fails_first (fails_first hy)
  | effect => exact fails_first hy
  | init => exact fails_first hy
  | assigned => exact fails_first hy
  | test =>
    rw [Fails, exec_branch_eq]
    exact fails_first hy
  | yes hv htrue =>
    rw [Fails, exec_branch_eq]
    refine fails_later hv ?_
    rw [if_pos htrue]
    exact fails_first hy
  | no hv hfalse =>
    rw [Fails, exec_branch_eq]
    refine fails_later hv ?_
    rw [hfalse, if_neg Bool.false_ne_true]
    exact fails_first hy
  | sequence => exact fails_first hy
  | itemTurns hv hitems =>
    refine fails_later hv ?_
    rw [hitems]
    exact hy
  | keyed => exact fails_first hy
  | keyTurns hv => exact fails_later hv hy
  | block => exact fails_first hy
  | firstStatement => exact fails_first hy
  | laterStatements hafter => exact fails_later hafter hy
  | firstTurn => exact fails_first (fails_first hy)
  | laterTurns hafter =>
    refine fails_later ?_ hy
    exact (answer_bind hafter _).trans rfl

/-- What raises an error fails with it. -/
theorem fails_of_raises (h : Raises reply ctx x err u) : Fails reply outputs ctx x err u := by
  have hresult : ∀ {α : Type} {r : Except RuntimeCause α} {cause : RuntimeCause} {s : σ},
      r = .error cause → (ofResult r).answer reply s = (.fail (.runtime cause), s) :=
    fun h => answer_ofResult_eq_fail_iff.2 ⟨_, h, rfl, rfl⟩
  cases h with
  | name h => exact hresult h
  | member hv h => exact fails_later hv (hresult h)
  | index hk hv h => exact fails_later hk (fails_later hv (hresult h))
  | bound h =>
    rw [Fails, eval, if_pos h]
    rfl
  | unknown hbound hvs hnone =>
    rw [Fails, eval, hbound, if_neg Bool.false_ne_true]
    refine fails_later hvs ?_
    rw [hnone]
    rfl
  | included hbound hvs hsome hreply =>
    rw [Fails, eval, hbound, if_neg Bool.false_ne_true]
    refine fails_later hvs ?_
    rw [hsome]
    refine fails_first ?_
    rw [Rendering.includeText, answer, hreply]
    rfl
  | method hv hvs h => exact fails_later hv (fails_later hvs (hresult h))
  | callee hident hmember =>
    rw [Fails, eval]
    · rfl
    · exact hident
    · exact hmember
  | undeclared hv h =>
    refine fails_later hv ?_
    rw [h]
    rfl
  | notIterable hv h => exact fails_later hv (fails_first (hresult h))

/-- Whatever a task comes to, the error of that is its own. -/
theorem fails_of_raised (h : Raised reply outputs ctx x err u) :
    Fails reply outputs ctx x err u := by
  obtain ⟨y, hreaches, hraises⟩ := h
  induction hreaches using ReflTransGen.head_induction_on with
  | refl => exact fails_of_raises hraises
  | head hcalls _ ih => exact fails_of_calls hcalls ih

/-! ## nothing else fails -/

/-- An error may be raised at once. -/
theorem Raised.here (h : Raises reply ctx x err u) : Raised reply outputs ctx x err u :=
  ⟨x, .refl, h⟩

/-- It may be raised by something that is called. -/
theorem Raised.after (h : Calls reply outputs ctx x y) (hy : Raised reply outputs ctx y err u) :
    Raised reply outputs ctx x err u := by
  obtain ⟨z, hreaches, hraises⟩ := hy
  exact ⟨z, .head h hreaches, hraises⟩

/-- Of the functions only an inclusion fails. -/
theorem raised_callFunction {f : Function} {vs : List Json}
    (h : (callFunction f vs).answer reply s = (.fail err, u)) :
    f = .includePartial ∧ reply (firstText vs) (vs[1]?.getD .null) s = (.fail err, u) := by
  cases f with
  | includePartial =>
    refine ⟨rfl, ?_⟩
    rcases answer_bind_eq_fail_iff.1 h with h | ⟨text, t, -, h⟩
    · rw [Rendering.includeText, answer] at h
      rcases hreply : reply (firstText vs) (vs[1]?.getD .null) s with ⟨o, t⟩
      rw [hreply] at h
      cases o with
      | done text => simp [Rendering.ofExcept, answer] at h
      | fail e => exact h
      | tooDeep => simp at h
    · simp [pure, answer] at h
  | _ => simp [callFunction, pure, answer] at h

mutual

/-- An expression fails because of something that its evaluation comes to. -/
theorem raised_of_eval (scopes : Scopes) : (e : Expr) → {s u : σ} →
    (eval ctx scopes e).answer reply s = (.fail err, u) →
    Raised reply outputs ctx (.eval scopes e, s) err u
  | .literal value => fun h => by
    rw [eval] at h
    exact absurd h answer_pure_ne_fail
  | .ident name => fun h => by
    rw [eval] at h
    obtain ⟨cause, hcause, rfl, rfl⟩ := answer_ofResult_eq_fail_iff.1 h
    exact .here (.name hcause)
  | .array es => fun h => by
    rw [eval] at h
    exact (raised_of_evalItems scopes es (answer_bind_pure_eq_fail_iff.1 h)).after .array
  | .object es => fun h => by
    rw [eval] at h
    exact (raised_of_evalEntries scopes es (answer_bind_pure_eq_fail_iff.1 h)).after .object
  | .member target name => fun h => by
    rw [eval] at h
    rcases answer_bind_eq_fail_iff.1 h with h | ⟨v, t, hv, h⟩
    · exact (raised_of_eval scopes target h).after .parent
    · obtain ⟨cause, hcause, rfl, rfl⟩ := answer_ofResult_eq_fail_iff.1 h
      exact .here (.member hv hcause)
  | .index target key => fun h => by
    rw [eval] at h
    rcases answer_bind_eq_fail_iff.1 h with h | ⟨k, t, hk, h⟩
    · exact (raised_of_eval scopes key h).after .key
    rcases answer_bind_eq_fail_iff.1 h with h | ⟨v, t', hv, h⟩
    · exact (raised_of_eval scopes target h).after (.indexed hk)
    · obtain ⟨cause, hcause, rfl, rfl⟩ := answer_ofResult_eq_fail_iff.1 h
      exact .here (.index hk hv hcause)
  | .call callee args => fun h => by
    cases callee with
    | ident name =>
      rw [eval] at h
      cases hbound : isBound ctx scopes name with
      | true =>
        rw [hbound, if_pos rfl] at h
        obtain ⟨rfl, rfl⟩ := answer_failWith_eq_fail_iff.1 h
        exact .here (.bound hbound)
      | false =>
        rw [hbound, if_neg Bool.false_ne_true] at h
        rcases answer_bind_eq_fail_iff.1 h with h | ⟨vs, t, hvs, h⟩
        · exact (raised_of_evalItems scopes args h).after (.arguments hbound)
        cases hf : Function.ofName? name with
        | none =>
          rw [hf] at h
          obtain ⟨rfl, rfl⟩ := answer_failWith_eq_fail_iff.1 h
          exact .here (.unknown hbound hvs hf)
        | some f =>
          rw [hf] at h
          obtain ⟨rfl, hreply⟩ := raised_callFunction h
          exact .here (.included hbound hvs hf hreply)
    | member target name =>
      rw [eval] at h
      rcases answer_bind_eq_fail_iff.1 h with h | ⟨v, t, hv, h⟩
      · exact (raised_of_eval scopes target h).after .receiver
      rcases answer_bind_eq_fail_iff.1 h with h | ⟨vs, t', hvs, h⟩
      · exact (raised_of_evalItems scopes args h).after (.methodArguments hv)
      · obtain ⟨cause, hcause, rfl, rfl⟩ := answer_ofResult_eq_fail_iff.1 h
        exact .here (.method hv hvs hcause)
    | _ =>
      obtain ⟨rfl, rfl⟩ := answer_failWith_eq_fail_iff.1 h
      exact .here (.callee nofun nofun)
  | .unary op operand => fun h => by
    rw [eval] at h
    exact (raised_of_eval scopes operand (answer_bind_pure_eq_fail_iff.1 h)).after .operand
  | .binary op left right => fun h => by
    rw [eval] at h
    rcases answer_bind_eq_fail_iff.1 h with h | ⟨v, t, hv, h⟩
    · exact (raised_of_eval scopes left h).after .left
    cases hdecides : decides op v with
    | true =>
      rw [hdecides, if_pos rfl] at h
      exact absurd h answer_pure_ne_fail
    | false =>
      rw [hdecides, if_neg Bool.false_ne_true] at h
      have hright := answer_bind_pure_eq_fail_iff.1 h
      exact (raised_of_eval scopes right hright).after (.right hv hdecides)
  | .conditional condition yes no => fun h => by
    rw [eval] at h
    rcases answer_bind_eq_fail_iff.1 h with h | ⟨v, t, hv, h⟩
    · exact (raised_of_eval scopes condition h).after .condition
    cases htruthy : truthy v with
    | true =>
      rw [htruthy, if_pos rfl] at h
      exact (raised_of_eval scopes yes h).after (.ifTrue hv htruthy)
    | false =>
      rw [htruthy, if_neg Bool.false_ne_true] at h
      exact (raised_of_eval scopes no h).after (.ifFalse hv htruthy)

/-- An expression of a list that fails is the first one to. -/
theorem raised_of_evalItems (scopes : Scopes) : (es : List Expr) → {s u : σ} →
    (evalItems ctx scopes es).answer reply s = (.fail err, u) →
    Raised reply outputs ctx (.items scopes es, s) err u
  | [] => fun h => by
    rw [evalItems] at h
    exact absurd h answer_pure_ne_fail
  | e :: rest => fun h => by
    rw [evalItems] at h
    rcases answer_bind_eq_fail_iff.1 h with h | ⟨v, t, hv, h⟩
    · exact (raised_of_eval scopes e h).after .firstItem
    have hrest := answer_bind_pure_eq_fail_iff.1 h
    exact (raised_of_evalItems scopes rest hrest).after (.laterItems hv)

/-- So is the entry of an object that fails. -/
theorem raised_of_evalEntries (scopes : Scopes) : (es : List (String × Expr)) → {s u : σ} →
    (evalEntries ctx scopes es).answer reply s = (.fail err, u) →
    Raised reply outputs ctx (.entries scopes es, s) err u
  | [] => fun h => by
    rw [evalEntries] at h
    exact absurd h answer_pure_ne_fail
  | (key, e) :: rest => fun h => by
    rw [evalEntries] at h
    rcases answer_bind_eq_fail_iff.1 h with h | ⟨v, t, hv, h⟩
    · exact (raised_of_eval scopes e h).after .firstEntry
    have hrest := answer_bind_pure_eq_fail_iff.1 h
    exact (raised_of_evalEntries scopes rest hrest).after (.laterEntries hv)

end

/-- What runs in a scope of its own fails where the run fails. -/
theorem fails_of_inScope {scope : Scope} {run : Frame → Rendering Frame} {frame : Frame}
    (h : (inScope scope run frame).answer reply s = (.fail err, u)) :
    (run (frame.enter scope)).answer reply s = (.fail err, u) :=
  answer_bind_pure_eq_fail_iff.1 h

/-- A loop fails in one of its turns. -/
theorem raised_of_turns {body : Stmt} (hbody : ∀ {frame : Frame} {s u : σ},
      (exec outputs ctx body frame).answer reply s = (.fail err, u) →
      Raised reply outputs ctx (.exec frame body, s) err u)
    (name : String) (values : List Json) {frame : Frame} {s : σ}
    (h : (turns name (exec outputs ctx body) values frame).answer reply s = (.fail err, u)) :
    Raised reply outputs ctx (.turns frame name body values, s) err u := by
  induction values generalizing frame s with
  | nil => exact absurd h answer_pure_ne_fail
  | cons v rest ih =>
    rw [turns] at h
    rcases answer_bind_eq_fail_iff.1 h with h | ⟨after, t, hafter, h⟩
    · exact (hbody (fails_of_inScope h)).after .firstTurn
    · obtain ⟨inner, t', hinner, hleave⟩ := Rendering.exists_of_answer_bind hafter
      obtain ⟨rfl, rfl⟩ : inner.leave = after ∧ t' = t := by
        simpa [Frame.leave, pure, answer] using hleave
      exact (ih h).after (.laterTurns hinner)

mutual

/-- A statement fails because of something that its execution comes to. -/
theorem raised_of_exec : (st : Stmt) → {frame : Frame} → {s u : σ} →
    (exec outputs ctx st frame).answer reply s = (.fail err, u) →
    Raised reply outputs ctx (.exec frame st, s) err u
  | .emit index, frame => fun h => by
    rw [exec] at h
    split at h
    · exact absurd h answer_pure_ne_fail
    · next output hget =>
      have htext := answer_bind_pure_eq_fail_iff.1 h
      cases output with
      | text text => exact absurd htext answer_pure_ne_fail
      | value e escape trim =>
        have hvalue := answer_bind_pure_eq_fail_iff.1 htext
        exact (raised_of_eval frame.scopes e hvalue).after (.output hget)
  | .expr e, frame => fun h => by
    rw [exec] at h
    exact (raised_of_eval frame.scopes e (answer_bind_pure_eq_fail_iff.1 h)).after .effect
  | .declare name none, frame => fun h => by
    rw [exec] at h
    exact absurd h answer_pure_ne_fail
  | .declare name (some e), frame => fun h => by
    rw [exec] at h
    exact (raised_of_eval frame.scopes e (answer_bind_pure_eq_fail_iff.1 h)).after .init
  | .assign name op e, frame => fun h => by
    rw [exec] at h
    rcases answer_bind_eq_fail_iff.1 h with h | ⟨v, t, hv, h⟩
    · exact (raised_of_eval frame.scopes e h).after .assigned
    cases hupdate : frame.scopes.update? name (Script.assigned op v) with
    | some scopes =>
      rw [hupdate] at h
      exact absurd h answer_pure_ne_fail
    | none =>
      rw [hupdate] at h
      obtain ⟨rfl, rfl⟩ := answer_failWith_eq_fail_iff.1 h
      exact .here (.undeclared hv hupdate)
  | .branch condition yes no, frame => fun h => by
    rw [exec_branch_eq] at h
    rcases answer_bind_eq_fail_iff.1 h with h | ⟨v, t, hv, h⟩
    · exact (raised_of_eval frame.scopes condition h).after .test
    cases htruthy : truthy v with
    | true =>
      rw [htruthy, if_pos rfl] at h
      exact (raised_of_exec yes (fails_of_inScope h)).after (.yes hv htruthy)
    | false =>
      rw [htruthy, if_neg Bool.false_ne_true] at h
      cases no with
      | none => exact absurd h answer_pure_ne_fail
      | some no => exact (raised_of_exec no (fails_of_inScope h)).after (.no hv htruthy)
  | .forOf name e body, frame => fun h => by
    rw [exec] at h
    rcases answer_bind_eq_fail_iff.1 h with h | ⟨v, t, hv, h⟩
    · exact (raised_of_eval frame.scopes e h).after .sequence
    cases hitems : loopItems v with
    | error cause =>
      rw [hitems] at h
      obtain ⟨rfl, rfl⟩ := answer_failWith_eq_fail_iff.1 h
      exact .here (.notIterable hv hitems)
    | ok values =>
      rw [hitems] at h
      exact (raised_of_turns (raised_of_exec body) name values h).after (.itemTurns hv hitems)
  | .forIn name e body, frame => fun h => by
    rw [exec] at h
    rcases answer_bind_eq_fail_iff.1 h with h | ⟨v, t, hv, h⟩
    · exact (raised_of_eval frame.scopes e h).after .keyed
    · exact (raised_of_turns (raised_of_exec body) name (loopKeys v) h).after (.keyTurns hv)
  | .block body, frame => fun h => by
    rw [exec] at h
    exact (raised_of_execAll body (fails_of_inScope h)).after .block
  | .empty, frame => fun h => by
    rw [exec] at h
    exact absurd h answer_pure_ne_fail

/-- So is the statement that fails. -/
theorem raised_of_execAll : (body : List Stmt) → {frame : Frame} → {s u : σ} →
    (execAll outputs ctx body frame).answer reply s = (.fail err, u) →
    Raised reply outputs ctx (.execAll frame body, s) err u
  | [], frame => fun h => by
    rw [execAll] at h
    exact absurd h answer_pure_ne_fail
  | st :: rest, frame => fun h => by
    rw [execAll] at h
    rcases answer_bind_eq_fail_iff.1 h with h | ⟨after, t, hafter, h⟩
    · exact (raised_of_exec st h).after .firstStatement
    · exact (raised_of_execAll rest h).after (.laterStatements hafter)

end

/-- **The first error is the one returned.** A task fails with an error exactly if it comes
to something that raises the error, and what that leaves is left in the end. -/
theorem fails_iff : Fails reply outputs ctx x err u ↔ Raised reply outputs ctx x err u := by
  constructor
  · intro h
    obtain ⟨task, s⟩ := x
    cases task with
    | eval scopes e => exact raised_of_eval scopes e h
    | items scopes es => exact raised_of_evalItems scopes es h
    | entries scopes es => exact raised_of_evalEntries scopes es h
    | exec frame st => exact raised_of_exec st h
    | execAll frame body => exact raised_of_execAll body h
    | turns frame name body values => exact raised_of_turns (raised_of_exec body) name values h
  · exact fails_of_raised

end

end Stencil.Script
