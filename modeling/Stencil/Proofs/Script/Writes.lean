import Stencil.Proofs.Script.Scopes

/-!
# Stencil.Proofs.Script.Writes

What a run writes. `Gives reply s r a s'` says that a rendering `r` gives `a`, where its
requests are answered by `reply` and the answers take the state `s` to `s'`. For
statements, `Writes reply scopes s run text s'` says that, from any text on and with the
variables `scopes`, a run of them writes `text` and leaves the variables as they were.

There is one rule for each way in which expressions and statements are put together. That
for a loop has an invariant of the states before its turns, and leaves the state that a
turn leaves if there was one (`writes_turns`).
-/

namespace Stencil.Script

open Rendering (Outcome answer_bind answer_map)

variable {α β σ : Type} {reply : String → Json → σ → Outcome String × σ} {s s₁ s₂ : σ}

/-- A rendering gives a result. -/
def Gives (reply : String → Json → σ → Outcome String × σ) (s : σ) (r : Rendering α) (a : α)
    (s' : σ) : Prop :=
  r.answer reply s = (.done a, s')

/-- Running writes a text and leaves the variables as they were. -/
def Writes (reply : String → Json → σ → Outcome String × σ) (scopes : Scopes) (s : σ)
    (run : Frame → Rendering Frame) (text : String) (s' : σ) : Prop :=
  ∀ before, Gives reply s (run ⟨scopes, before⟩) ⟨scopes, before ++ text⟩ s'

/-- One rendering gives a value, and the other one goes on with it. -/
theorem Gives.bind {r : Rendering α} {a : α} {f : α → Rendering β} {b : β}
    (h : Gives reply s r a s₁) (h' : Gives reply s₁ (f a) b s₂) : Gives reply s (r >>= f) b s₂ := by
  rw [Gives, answer_bind h]
  exact h'

/-- What is made of the value is given. -/
theorem Gives.map {r : Rendering α} {a : α} (h : Gives reply s r a s₁) (f : α → β) :
    Gives reply s (f <$> r) (f a) s₁ := by
  rw [Gives, answer_map, h]
  rfl

variable {scopes : Scopes} {outputs : List Output} {ctx : Context}

/-! ## values -/

section
variable {e e' : Expr} {v v' : Json}

/-- A literal gives its value. -/
theorem gives_literal (v : Json) : Gives reply s (eval ctx scopes (.literal v)) v s := by
  rw [eval]
  rfl

/-- A variable gives what its name stands for. -/
theorem gives_variable {name : String} (h : scopes.find? name = some v) :
    Gives reply s (eval ctx scopes (.ident name)) v s := by
  rw [eval, nameValue, h]
  rfl

/-- The data has its name where no variable hides it. -/
theorem gives_data {dataName : String} {data : Json} (h : scopes.find? dataName = none) :
    Gives reply s (eval ⟨dataName, data⟩ scopes (.ident dataName)) data s := by
  rw [eval, nameValue, h]
  dsimp only
  rw [if_pos rfl]
  rfl

/-- A property gives what the value has under the key. -/
theorem gives_member {key : String} (h : Gives reply s (eval ctx scopes e) v s₁)
    (hv : property v (.string key) = .ok v') :
    Gives reply s (eval ctx scopes (.member e key)) v' s₁ := by
  rw [eval]
  refine h.bind ?_
  rw [hv]
  rfl

/-- The field of an object that has a name. -/
theorem gives_field {name : String} {fields : List (String × Json)} (key : String)
    (h : Gives reply s (eval ctx scopes (.ident name)) (.object fields) s₁) :
    Gives reply s (eval ctx scopes (.member (.ident name) key)) (Json.field key fields) s₁ := by
  refine gives_member h ?_
  rw [property, display]

/-- A conditional gives the value of the branch that is chosen. -/
theorem gives_conditional {c yes no : Expr} (h : Gives reply s (eval ctx scopes c) v s₁)
    (hv : Gives reply s₁ (eval ctx scopes (if truthy v then yes else no)) v' s₂) :
    Gives reply s (eval ctx scopes (.conditional c yes no)) v' s₂ := by
  rw [eval]
  refine h.bind ?_
  cases hc : truthy v with
  | true =>
    rw [hc] at hv
    exact hv
  | false =>
    rw [hc] at hv
    exact hv

/-- Both operands are evaluated unless the first one decides. -/
theorem gives_binary {op : BinaryOp} (h : Gives reply s (eval ctx scopes e) v s₁)
    (hop : decides op v = false) (h' : Gives reply s₁ (eval ctx scopes e') v' s₂) :
    Gives reply s (eval ctx scopes (.binary op e e')) (applyBinary op v v') s₂ := by
  rw [eval]
  refine h.bind ?_
  rw [hop]
  exact h'.bind rfl

/-- The value of an inclusion is the text that is answered. -/
theorem gives_include {text : String} (hbound : isBound ctx scopes "include" = false)
    (h : Gives reply s (eval ctx scopes e) v s₁) (h' : Gives reply s₁ (eval ctx scopes e') v' s₂)
    {s₃ : σ} (hreply : reply (display v) v' s₂ = (.done text, s₃)) :
    Gives reply s (eval ctx scopes (.call (.ident "include") [e, e'])) (.string text) s₃ := by
  have hlast : Gives reply s₁ (evalItems ctx scopes [e']) [v'] s₂ := by
    rw [evalItems, evalItems]
    exact h'.bind rfl
  have hargs : Gives reply s (evalItems ctx scopes [e, e']) [v, v'] s₂ := by
    rw [evalItems]
    exact h.bind (hlast.bind rfl)
  have htext : Gives reply s₂ (Rendering.includeText (display v) v') text s₃ := by
    rw [Gives, Rendering.includeText, Rendering.answer, hreply]
    rfl
  rw [eval, hbound]
  exact hargs.bind (htext.map Json.string)

end

/-! ## statements -/

section
variable {text text' : String} {run : Frame → Rendering Frame}

/-- A text gives itself. -/
theorem gives_text (text : String) : Gives reply s (outputText ctx scopes (.text text)) text s :=
  rfl

/-- A value gives the text that it is displayed as, escaped and trimmed. -/
theorem gives_value {e : Expr} {v : Json} (h : Gives reply s (eval ctx scopes e) v s₁)
    (escape : Bool) (trim : Trim) :
    Gives reply s (outputText ctx scopes (.value e escape trim)) (valueText escape trim v) s₁ :=
  h.bind rfl

/-- An output writes its text. -/
theorem writes_emit {index : Nat} {o : Output} (hget : outputs[index]? = some o)
    (h : Gives reply s (outputText ctx scopes o) text s₁) :
    Writes reply scopes s (exec outputs ctx (.emit index)) text s₁ := by
  intro before
  rw [exec_emit, hget]
  exact h.bind rfl

/-- An output of a text writes the text. -/
theorem writes_text (index : Nat) (hget : outputs[index]? = some (.text text)) :
    Writes reply scopes s (exec outputs ctx (.emit index)) text s :=
  writes_emit hget (gives_text text)

/-- A scope writes what runs in it writes. -/
theorem writes_inScope {scope : Scope} (h : Writes reply (scope :: scopes) s run text s₁) :
    Writes reply scopes s (inScope scope run) text s₁ :=
  fun before => (h before).bind rfl

/-- One statement writes its text. -/
theorem writes_single {stmt : Stmt} (h : Writes reply scopes s (exec outputs ctx stmt) text s₁) :
    Writes reply scopes s (execAll outputs ctx [stmt]) text s₁ := by
  intro before
  rw [execAll_cons, execAll_nil]
  exact (h before).bind rfl

/-- Statements write their texts one after the other. -/
theorem writes_cons {stmt : Stmt} {rest : List Stmt}
    (h : Writes reply scopes s (exec outputs ctx stmt) text s₁)
    (h' : Writes reply scopes s₁ (execAll outputs ctx rest) text' s₂) :
    Writes reply scopes s (execAll outputs ctx (stmt :: rest)) (text ++ text') s₂ := by
  intro before
  rw [execAll_cons, ← String.append_assoc]
  exact (h before).bind (h' (before ++ text))

/-- A block writes what its statements write. -/
theorem writes_block {body : List Stmt}
    (h : Writes reply ([] :: scopes) s (execAll outputs ctx body) text s₁) :
    Writes reply scopes s (exec outputs ctx (.block body)) text s₁ := by
  rw [exec_block]
  exact writes_inScope h

/-- An `if` without `else` writes what its statement does, or nothing. -/
theorem writes_branch {c : Expr} {v : Json} {yes : Stmt}
    (hc : Gives reply s (eval ctx scopes c) v s₁)
    (h : truthy v = true → Writes reply ([] :: scopes) s₁ (exec outputs ctx yes) text s₁) :
    Writes reply scopes s (exec outputs ctx (.branch c yes none))
      (if truthy v then text else "") s₁ := by
  intro before
  rw [exec_branch]
  refine hc.bind ?_
  cases hv : truthy v with
  | true => exact writes_inScope (h hv) before
  | false =>
    rw [if_neg Bool.false_ne_true, if_neg Bool.false_ne_true, String.append_empty]
    rfl

/-- A loop writes what its turns write, one after the other. A turn finds a state with the
property `I` and leaves the state `after`, which has it again. -/
theorem writes_turns {ι : Type} {name : String} {value : ι → Json} {line : ι → String}
    {I : σ → Prop} {after : σ} (hafter : I after) (items : List ι)
    (hturn : ∀ i ∈ items, ∀ s, I s →
      Writes reply scopes s (inScope [(name, value i)] run) (line i) after) (hs : I s) :
    Writes reply scopes s (turns name run (items.map value)) (String.join (items.map line))
      (if items.isEmpty then s else after) := by
  induction items generalizing s with
  | nil =>
    intro before
    rw [List.map_nil, List.map_nil, turns, String.join_nil, String.append_empty]
    rfl
  | cons i items ih =>
    intro before
    have hfirst := hturn i (by simp) s hs before
    have hrest := ih (fun j hj => hturn j (by simp [hj])) hafter (before ++ line i)
    rw [List.map_cons, List.map_cons, turns, String.join_cons, ← String.append_assoc]
    rw [ite_self] at hrest
    exact hfirst.bind hrest

/-- A loop over an array writes what its turns write. -/
theorem writes_forOf {name : String} {e : Expr} {body : Stmt} {items : List Json}
    (he : Gives reply s (eval ctx scopes e) (.array items) s₁)
    (h : Writes reply scopes s₁ (turns name (exec outputs ctx body) items) text s₂) :
    Writes reply scopes s (exec outputs ctx (.forOf name e body)) text s₂ := by
  intro before
  rw [exec_forOf]
  exact he.bind (h before)

/-- What a script gives is what its statements write. -/
theorem gives_run {script : Tree} {dataName : String} {data : Json}
    (h : Writes reply [[]] s (execAll script.outputs ⟨dataName, data⟩ script.body) text s₁) :
    Gives reply s (script.run dataName data) text s₁ := by
  have hrun := h ""
  rw [String.empty_append] at hrun
  exact hrun.bind rfl

end

end Stencil.Script
