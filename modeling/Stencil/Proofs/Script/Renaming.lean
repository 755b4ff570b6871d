import Mathlib.Logic.Equiv.Basic
import Stencil.Proofs.Script.Scopes

/-!
# Stencil.Proofs.Script.Renaming

The name of the data does not matter. A name in a script means a variable, the data or a
function, which is decided while the script runs. Giving the data another name, and
putting that in the place of the old one wherever it stands in the script, changes none
of these decisions, whatever variables shadow the data and whether or not the names are
those of functions.

1. Renaming by an injective map commutes with all that is done to scopes
   (`Scopes.find?_rename`, `Scopes.update?_rename`), and so with running a script
   (`exec_rename`), provided that the functions that are called keep their names.
2. Putting a new name in the place of another one is no injective map. Where the new name
   is not in the script, though, it is the same as exchanging the two (`Tree.rename_congr`).
-/

namespace Stencil.Script

open Rendering (Alike Outcome)

/-! ## renaming -/

mutual

/-- An expression with other names. The keys of objects and the names of properties and
methods are none. -/
def Expr.rename (π : String → String) : Expr → Expr
  | .literal value => .literal value
  | .ident name => .ident (π name)
  | .array items => .array (renameItems π items)
  | .object entries => .object (renameEntries π entries)
  | .member target name => .member (target.rename π) name
  | .index target key => .index (target.rename π) (key.rename π)
  | .call callee args => .call (callee.rename π) (renameItems π args)
  | .unary op operand => .unary op (operand.rename π)
  | .binary op left right => .binary op (left.rename π) (right.rename π)
  | .conditional condition yes no =>
    .conditional (condition.rename π) (yes.rename π) (no.rename π)

/-- Expressions with other names. -/
def renameItems (π : String → String) : List Expr → List Expr
  | [] => []
  | e :: rest => e.rename π :: renameItems π rest

/-- The entries of an object with other names. -/
def renameEntries (π : String → String) : List (String × Expr) → List (String × Expr)
  | [] => []
  | (key, e) :: rest => (key, e.rename π) :: renameEntries π rest

end

mutual

/-- A statement with other names, those that it declares among them. -/
def Stmt.rename (π : String → String) : Stmt → Stmt
  | .emit index => .emit index
  | .expr e => .expr (e.rename π)
  | .declare name none => .declare (π name) none
  | .declare name (some e) => .declare (π name) (some (e.rename π))
  | .assign name op e => .assign (π name) op (e.rename π)
  | .branch condition yes none => .branch (condition.rename π) (yes.rename π) none
  | .branch condition yes (some no) =>
    .branch (condition.rename π) (yes.rename π) (some (no.rename π))
  | .forOf name e body => .forOf (π name) (e.rename π) (body.rename π)
  | .forIn name e body => .forIn (π name) (e.rename π) (body.rename π)
  | .block body => .block (renameAll π body)
  | .empty => .empty

/-- Statements with other names. -/
def renameAll (π : String → String) : List Stmt → List Stmt
  | [] => []
  | s :: rest => s.rename π :: renameAll π rest

end

/-- An output with other names. -/
def Output.rename (π : String → String) : Output → Output
  | .text s => .text s
  | .value e escape trim => .value (e.rename π) escape trim

/-- A script with other names. -/
def Tree.rename (π : String → String) (script : Tree) : Tree :=
  ⟨renameAll π script.body, script.outputs.map (Output.rename π)⟩

/-- Variables with other names. -/
def Scope.rename (π : String → String) (scope : Scope) : Scope :=
  scope.map fun entry => (π entry.1, entry.2)

/-- Scopes with other names. -/
def Scopes.rename (π : String → String) (scopes : Scopes) : Scopes :=
  scopes.map (Scope.rename π)

/-- A frame with other names. -/
def Frame.rename (π : String → String) (frame : Frame) : Frame :=
  { frame with scopes := frame.scopes.rename π }

/-- The data under another name. -/
def Context.rename (π : String → String) (ctx : Context) : Context :=
  { ctx with dataName := π ctx.dataName }

/-- An error about another name. -/
def RuntimeCause.rename (π : String → String) : RuntimeCause → RuntimeCause
  | .onlyCalled name => .onlyCalled (π name)
  | .notDefined name => .notDefined (π name)
  | .notDeclared name => .notDeclared (π name)
  | cause => cause

/-- The errors are the same, or say the same about another name. -/
def Renamed (π : String → String) (e e' : Error) : Prop :=
  e' = e ∨ ∃ cause, e = .runtime cause ∧ e' = .runtime (cause.rename π)

/-! ## scopes -/

section
variable {π : String → String}

/-- A renamed variable is found under its new name. -/
theorem Scope.lookup_rename (hπ : Function.Injective π) (name : String) (scope : Scope) :
    (scope.rename π).lookup (π name) = scope.lookup name := by
  induction scope with
  | nil => rfl
  | cons entry rest ih =>
    obtain ⟨x, v⟩ := entry
    have hcons : Scope.rename π ((x, v) :: rest) = (π x, v) :: Scope.rename π rest := rfl
    have hbeq : (π name == π x) = (name == x) := by simp [hπ.eq_iff]
    rw [hcons, List.lookup_cons, List.lookup_cons, hbeq, ih]

/-- It is set under its new name. -/
theorem Scope.set_rename (hπ : Function.Injective π) (name : String) (value : Json)
    (scope : Scope) : (scope.rename π).set (π name) value = (scope.set name value).rename π := by
  induction scope with
  | nil => rfl
  | cons entry rest ih =>
    obtain ⟨x, v⟩ := entry
    have hcons : Scope.rename π ((x, v) :: rest) = (π x, v) :: Scope.rename π rest := rfl
    rw [hcons, Scope.set, Scope.set]
    by_cases hx : x = name
    · rw [if_pos hx, if_pos (congrArg π hx)]
      rfl
    · rw [if_neg hx, if_neg (hπ.ne hx), ih]
      rfl

namespace Scopes

/-- A name stands for the same in renamed scopes. -/
theorem find?_rename (hπ : Function.Injective π) (name : String) (scopes : Scopes) :
    (scopes.rename π).find? (π name) = scopes.find? name := by
  induction scopes with
  | nil => rfl
  | cons scope rest ih =>
    have hcons : rename π (scope :: rest) = scope.rename π :: rename π rest := rfl
    rw [hcons, find?_cons, find?_cons, Scope.lookup_rename hπ, ih]

/-- A declaration declares the new name. -/
theorem declare_rename (hπ : Function.Injective π) (name : String) (value : Json)
    (scopes : Scopes) :
    (scopes.rename π).declare (π name) value = (scopes.declare name value).rename π := by
  cases scopes with
  | nil => rfl
  | cons scope rest => exact congrArg (· :: rename π rest) (Scope.set_rename hπ name value scope)

/-- An assignment changes the variable of the new name. -/
theorem update?_rename (hπ : Function.Injective π) (name : String) (change : Json → Json)
    (scopes : Scopes) :
    (scopes.rename π).update? (π name) change = (scopes.update? name change).map (rename π) := by
  induction scopes with
  | nil => rfl
  | cons scope rest ih =>
    have hcons : rename π (scope :: rest) = scope.rename π :: rename π rest := rfl
    rw [hcons, update?, update?, Scope.lookup_rename hπ]
    cases scope.lookup name with
    | some value => exact congrArg some (congrArg (· :: rename π rest) (Scope.set_rename hπ _ _ _))
    | none =>
      rw [ih, Option.map_map, Option.map_map]
      rfl

end Scopes

/-! ## expressions -/

/-- A name that is not that of the data means the same function after the renaming. -/
def KeepsFunction (π : String → String) (dataName name : String) : Prop :=
  name ≠ dataName → Function.ofName? (π name) = Function.ofName? name

/-- The new names are bound just where the old ones were. -/
theorem isBound_rename (hπ : Function.Injective π) (ctx : Context) (scopes : Scopes)
    (name : String) :
    isBound (ctx.rename π) (scopes.rename π) (π name) = isBound ctx scopes name := by
  have hbeq : (π name == π ctx.dataName) = (name == ctx.dataName) := by simp [hπ.eq_iff]
  rw [isBound, isBound, Context.rename, Scopes.find?_rename hπ, hbeq]

/-- An error may stay as it is. -/
theorem Renamed.refl (π : String → String) (e : Error) : Renamed π e e := .inl rfl

/-- Failing names the variable by its new name. -/
theorem alike_failWith_rename {α β : Type} {R : α → β → Prop} (cause : RuntimeCause) :
    Alike (Renamed π) R (failWith cause) (failWith (cause.rename π)) :=
  .fail (.inr ⟨cause, rfl, rfl⟩)

/-- What names no variable is not changed. -/
theorem alike_self {α : Type} (r : Rendering α) : Alike (Renamed π) (· = ·) r r :=
  .refl (Renamed.refl π) r

/-- A name means the same. -/
theorem nameValue_rename (hπ : Function.Injective π) {ctx : Context} (scopes : Scopes)
    {name : String} (hname : KeepsFunction π ctx.dataName name) :
    Alike (Renamed π) (· = ·) (ofResult (nameValue ctx scopes name))
      (ofResult (nameValue (ctx.rename π) (scopes.rename π) (π name))) := by
  rw [nameValue, nameValue, Scopes.find?_rename hπ]
  cases scopes.find? name with
  | some value => exact .done rfl
  | none =>
    by_cases hdata : name = ctx.dataName
    · have hdata' : π name = (ctx.rename π).dataName := congrArg π hdata
      dsimp only
      rw [if_pos hdata, if_pos hdata']
      exact .done rfl
    · have hdata' : π name ≠ (ctx.rename π).dataName := hπ.ne hdata
      dsimp only
      rw [if_neg hdata, if_neg hdata', hname hdata]
      cases (Function.ofName? name).isSome with
      | true => exact alike_failWith_rename (.onlyCalled name)
      | false => exact alike_failWith_rename (.notDefined name)

end

section
variable {π : String → String} {ctx : Context} (scopes : Scopes)

mutual

/-- An expression has the same value under other names. -/
theorem eval_rename (hπ : Function.Injective π) : (e : Expr) →
    (∀ x ∈ e.names, KeepsFunction π ctx.dataName x) →
    Alike (Renamed π) (· = ·) (eval ctx scopes e)
      (eval (ctx.rename π) (scopes.rename π) (e.rename π))
  | .literal value, h => .done rfl
  | .ident name, h => by
    rw [Expr.rename, eval, eval]
    exact nameValue_rename hπ scopes (h name (by rw [Expr.names]; exact List.mem_singleton_self _))
  | .array items, h => by
    rw [Expr.rename, eval, eval]
    exact (evalItems_rename hπ items h).bind_eq fun values => .done rfl
  | .object entries, h => by
    rw [Expr.rename, eval, eval]
    exact (evalEntries_rename hπ entries h).bind_eq fun fields => .done rfl
  | .member target name, h => by
    rw [Expr.rename, eval, eval]
    exact (eval_rename hπ target h).bind_eq fun parent => alike_self _
  | .index target key, h => by
    have htarget := eval_rename hπ target fun x hx => h x (List.mem_append_left _ hx)
    have hkey := eval_rename hπ key fun x hx => h x (List.mem_append_right _ hx)
    rw [Expr.rename, eval, eval]
    exact hkey.bind_eq fun key => htarget.bind_eq fun parent => alike_self _
  | .call callee args, h => by
    have hargs := evalItems_rename hπ args fun x hx => h x (List.mem_append_right _ hx)
    have hcallee : ∀ x ∈ callee.names, KeepsFunction π ctx.dataName x :=
      fun x hx => h x (List.mem_append_left _ hx)
    cases callee with
    | ident name =>
      have hname := hcallee name (by rw [Expr.names]; exact List.mem_singleton_self _)
      rw [Expr.rename, Expr.rename, eval, eval, isBound_rename hπ]
      cases hbound : isBound ctx scopes name with
      | true => exact alike_self _
      | false =>
        -- what can be called is not the data, so it is the same function
        have hne : name ≠ ctx.dataName := by
          rintro rfl
          simp [isBound] at hbound
        rw [if_neg Bool.false_ne_true, if_neg Bool.false_ne_true, hname hne]
        refine hargs.bind_eq fun values => ?_
        cases Function.ofName? name with
        | some f => exact alike_self _
        | none => exact alike_failWith_rename (.notDefined name)
    | member target name =>
      rw [Expr.rename, Expr.rename, eval, eval]
      exact (eval_rename hπ target hcallee).bind_eq fun v => hargs.bind_eq fun values =>
        alike_self _
    | _ => exact alike_self _
  | .unary op operand, h => by
    rw [Expr.rename, eval, eval]
    exact (eval_rename hπ operand h).bind_eq fun v => .done rfl
  | .binary op left right, h => by
    have hleft := eval_rename hπ left fun x hx => h x (List.mem_append_left _ hx)
    have hright := eval_rename hπ right fun x hx => h x (List.mem_append_right _ hx)
    rw [Expr.rename, eval, eval]
    refine hleft.bind_eq fun l => ?_
    split
    · exact .done rfl
    · exact hright.bind_eq fun r => .done rfl
  | .conditional condition yes no, h => by
    have hcondition := eval_rename hπ condition fun x hx =>
      h x (List.mem_append_left _ (List.mem_append_left _ hx))
    have hyes := eval_rename hπ yes fun x hx =>
      h x (List.mem_append_left _ (List.mem_append_right _ hx))
    have hno := eval_rename hπ no fun x hx => h x (List.mem_append_right _ hx)
    rw [Expr.rename, eval, eval]
    refine hcondition.bind_eq fun c => ?_
    split
    · exact hyes
    · exact hno

/-- The values of expressions in a list are the same. -/
theorem evalItems_rename (hπ : Function.Injective π) : (items : List Expr) →
    (∀ x ∈ namesOfItems items, KeepsFunction π ctx.dataName x) →
    Alike (Renamed π) (· = ·) (evalItems ctx scopes items)
      (evalItems (ctx.rename π) (scopes.rename π) (renameItems π items))
  | [], h => .done rfl
  | e :: rest, h => by
    have hfirst := eval_rename hπ e fun x hx => h x (List.mem_append_left _ hx)
    have hrest := evalItems_rename hπ rest fun x hx => h x (List.mem_append_right _ hx)
    rw [renameItems, evalItems, evalItems]
    exact hfirst.bind_eq fun value => hrest.bind_eq fun values => .done rfl

/-- The values of the entries of an object are the same. -/
theorem evalEntries_rename (hπ : Function.Injective π) : (entries : List (String × Expr)) →
    (∀ x ∈ namesOfEntries entries, KeepsFunction π ctx.dataName x) →
    Alike (Renamed π) (· = ·) (evalEntries ctx scopes entries)
      (evalEntries (ctx.rename π) (scopes.rename π) (renameEntries π entries))
  | [], h => .done rfl
  | (key, e) :: rest, h => by
    have hfirst := eval_rename hπ e fun x hx => h x (List.mem_append_left _ hx)
    have hrest := evalEntries_rename hπ rest fun x hx => h x (List.mem_append_right _ hx)
    rw [renameEntries, evalEntries, evalEntries]
    exact hfirst.bind_eq fun value => hrest.bind_eq fun fields => .done rfl

end

/-- A renamed output writes the same text. -/
theorem outputText_rename (hπ : Function.Injective π) {o : Output}
    (h : ∀ x ∈ o.names, KeepsFunction π ctx.dataName x) :
    Alike (Renamed π) (· = ·) (outputText ctx scopes o)
      (outputText (ctx.rename π) (scopes.rename π) (o.rename π)) := by
  cases o with
  | text s => exact .done rfl
  | value e escape trim => exact (eval_rename scopes hπ e h).bind_eq fun v => .done rfl

end

/-! ## statements -/

/-- Two runs go alike from frames that differ in their names only, and lead to such
frames. -/
def Commutes (π : String → String) (run run' : Frame → Rendering Frame) : Prop :=
  ∀ frame, Alike (Renamed π) (fun after after' => after' = after.rename π) (run frame)
    (run' (frame.rename π))

namespace Commutes

variable {π : String → String} {α : Type} {run run' next next' : Frame → Rendering Frame}

/-- Doing nothing commutes with renaming. -/
theorem pure : Commutes π Pure.pure Pure.pure := fun _ => .done rfl

/-- Getting a value and going on with it. -/
theorem read {f f' : Frame → Rendering α} {g g' : α → Frame → Rendering Frame}
    (hf : ∀ frame, Alike (Renamed π) (· = ·) (f frame) (f' (frame.rename π)))
    (hg : ∀ a, Commutes π (g a) (g' a)) :
    Commutes π (fun frame => f frame >>= fun a => g a frame)
      (fun frame => f' frame >>= fun a => g' a frame) :=
  fun frame => (hf frame).bind fun a _ hab => hab ▸ hg a frame

/-- So does writing. -/
theorem write (text : String) : Commutes π
    (fun frame => Pure.pure { frame with text := frame.text ++ text })
    (fun frame => Pure.pure { frame with text := frame.text ++ text }) := fun _ => .done rfl

/-- So does a declaration. -/
theorem declare (hπ : Function.Injective π) (name : String) (value : Json) : Commutes π
    (fun frame => Pure.pure { frame with scopes := frame.scopes.declare name value })
    (fun frame => Pure.pure { frame with scopes := frame.scopes.declare (π name) value }) :=
  fun frame => .done (congrArg (Frame.mk · frame.text)
    (Scopes.declare_rename hπ name value frame.scopes))

/-- So does an assignment, even if it fails. -/
theorem update (hπ : Function.Injective π) (name : String) (change : Json → Json) : Commutes π
    (fun frame =>
      match frame.scopes.update? name change with
      | some scopes => Pure.pure { frame with scopes }
      | none => failWith (.notDeclared name))
    (fun frame =>
      match frame.scopes.update? (π name) change with
      | some scopes => Pure.pure { frame with scopes }
      | none => failWith (.notDeclared (π name))) := by
  intro frame
  have hupdate : (frame.rename π).scopes.update? (π name) change =
      (frame.scopes.update? name change).map (Scopes.rename π) :=
    Scopes.update?_rename hπ name change frame.scopes
  dsimp only
  rw [hupdate]
  cases frame.scopes.update? name change with
  | some scopes => exact .done rfl
  | none => exact alike_failWith_rename (.notDeclared name)

/-- One run after the other. -/
theorem seq (h : Commutes π run run') (hnext : Commutes π next next') :
    Commutes π (fun frame => run frame >>= next) (fun frame => run' frame >>= next') :=
  fun frame => (h frame).bind fun after _ hafter => hafter ▸ hnext after

/-- Running in a scope of its own, whose variables have other names too. -/
theorem inScope (h : Commutes π run run') (scope : Scope) :
    Commutes π (Script.inScope scope run) (Script.inScope (scope.rename π) run') := by
  intro frame
  refine (h { frame with scopes := scope :: frame.scopes }).bind fun after _ hafter => ?_
  subst hafter
  exact .done (congrArg (Frame.mk · after.text) List.map_tail.symm)

/-- A loop whose variable has another name. -/
theorem turns (h : Commutes π run run') (name : String) (values : List Json) :
    Commutes π (Script.turns name run values) (Script.turns (π name) run' values) := by
  induction values with
  | nil => exact pure
  | cons value rest ih => exact (h.inScope [(name, value)]).seq ih

end Commutes

section
variable {π : String → String} {ctx : Context} {outputs : List Output}

mutual

/-- A statement does the same under other names. -/
theorem exec_rename (hπ : Function.Injective π)
    (ho : ∀ o ∈ outputs, ∀ x ∈ o.names, KeepsFunction π ctx.dataName x) :
    (s : Stmt) → (∀ x ∈ s.names, KeepsFunction π ctx.dataName x) →
    Commutes π (exec outputs ctx s)
      (exec (outputs.map (Output.rename π)) (ctx.rename π) (s.rename π))
  | .emit index, h => by
    rw [Stmt.rename, exec_emit, exec_emit, List.getElem?_map]
    cases hget : outputs[index]? with
    | none => exact .pure
    | some o =>
      exact .read (fun frame => outputText_rename frame.scopes hπ
        (ho o (List.mem_of_getElem? hget))) .write
  | .expr e, h => by
    rw [Stmt.rename, exec_expr, exec_expr]
    exact .read (fun frame => eval_rename frame.scopes hπ e h) fun _ => .pure
  | .declare name none, h => by
    rw [Stmt.rename, exec_declare, exec_declare]
    exact .declare hπ name .null
  | .declare name (some e), h => by
    rw [Stmt.rename, exec_declareAs, exec_declareAs]
    exact .read (fun frame => eval_rename frame.scopes hπ e h) (.declare hπ name)
  | .assign name op e, h => by
    rw [Stmt.rename, exec_assign, exec_assign]
    exact .read (fun frame => eval_rename frame.scopes hπ e fun x hx =>
      h x (List.mem_cons_of_mem _ hx)) fun v => .update hπ name (assigned op v)
  | .branch condition yes none, h => by
    have hyes := exec_rename hπ ho yes fun x hx => h x (List.mem_append_right _ hx)
    rw [Stmt.rename, exec_branch, exec_branch]
    refine .read (fun frame => eval_rename frame.scopes hπ condition fun x hx =>
      h x (List.mem_append_left _ hx)) fun c => ?_
    split
    · exact hyes.inScope []
    · exact .pure
  | .branch condition yes (some no), h => by
    have hyes := exec_rename hπ ho yes fun x hx =>
      h x (List.mem_append_left _ (List.mem_append_right _ hx))
    have hno := exec_rename hπ ho no fun x hx => h x (List.mem_append_right _ hx)
    rw [Stmt.rename, exec_branchElse, exec_branchElse]
    refine .read (fun frame => eval_rename frame.scopes hπ condition fun x hx =>
      h x (List.mem_append_left _ (List.mem_append_left _ hx))) fun c => ?_
    split
    · exact hyes.inScope []
    · exact hno.inScope []
  | .forOf name e body, h => by
    have hbody := exec_rename hπ ho body fun x hx => h x (List.mem_append_right _ hx)
    rw [Stmt.rename, exec_forOf, exec_forOf]
    exact .read (fun frame => eval_rename frame.scopes hπ e fun x hx =>
      h x (List.mem_append_left _ hx)) fun v => .read (fun _ => alike_self _) fun values =>
        hbody.turns name values
  | .forIn name e body, h => by
    have hbody := exec_rename hπ ho body fun x hx => h x (List.mem_append_right _ hx)
    rw [Stmt.rename, exec_forIn, exec_forIn]
    exact .read (fun frame => eval_rename frame.scopes hπ e fun x hx =>
      h x (List.mem_append_left _ hx)) fun v => hbody.turns name (loopKeys v)
  | .block body, h => by
    have hbody := execAll_rename hπ ho body h
    rw [Stmt.rename, exec_block, exec_block]
    exact hbody.inScope []
  | .empty, h => by
    rw [Stmt.rename, exec_empty, exec_empty]
    exact .pure

/-- Statements commute with renaming one after the other. -/
theorem execAll_rename (hπ : Function.Injective π)
    (ho : ∀ o ∈ outputs, ∀ x ∈ o.names, KeepsFunction π ctx.dataName x) :
    (body : List Stmt) → (∀ x ∈ namesOfAll body, KeepsFunction π ctx.dataName x) →
    Commutes π (execAll outputs ctx body)
      (execAll (outputs.map (Output.rename π)) (ctx.rename π) (renameAll π body))
  | [], h => by
    rw [renameAll, execAll_nil, execAll_nil]
    exact .pure
  | s :: rest, h => by
    have hfirst := exec_rename hπ ho s fun x hx => h x (List.mem_append_left _ hx)
    have hrest := execAll_rename hπ ho rest fun x hx => h x (List.mem_append_right _ hx)
    rw [renameAll, execAll_cons, execAll_cons]
    exact hfirst.seq hrest

end

end

/-- A script does the same under other names. -/
theorem run_rename {π : String → String} (hπ : Function.Injective π) {script : Tree}
    {dataName : String} (hbody : ∀ x ∈ namesOfAll script.body, KeepsFunction π dataName x)
    (ho : ∀ o ∈ script.outputs, ∀ x ∈ o.names, KeepsFunction π dataName x) (data : Json) :
    Alike (Renamed π) (· = ·) (script.run dataName data)
      ((script.rename π).run (π dataName) data) := by
  have hall : Commutes π (execAll script.outputs ⟨dataName, data⟩ script.body)
      (execAll (script.rename π).outputs ⟨π dataName, data⟩ (script.rename π).body) :=
    execAll_rename hπ ho script.body hbody
  refine (hall ⟨[[]], ""⟩).bind ?_
  rintro after _ rfl
  exact .done rfl

/-! ## putting a name in the place of another -/

mutual

/-- The names that a statement declares, and the variables of its loops. -/
def Stmt.binders : Stmt → List String
  | .emit _ => []
  | .expr _ => []
  | .declare name _ => [name]
  | .assign _ _ _ => []
  | .branch _ yes none => yes.binders
  | .branch _ yes (some no) => yes.binders ++ no.binders
  | .forOf name _ body => name :: body.binders
  | .forIn name _ body => name :: body.binders
  | .block body => bindersOfAll body
  | .empty => []

/-- The names that statements declare, and the variables of their loops. -/
def bindersOfAll : List Stmt → List String
  | [] => []
  | s :: rest => s.binders ++ bindersOfAll rest

end

/-- The names in a script: those that are read, called and assigned to, and those that are
declared. -/
def Tree.identifiers (script : Tree) : List String :=
  namesOfAll script.body ++ bindersOfAll script.body ++ script.outputs.flatMap Output.names

/-- A script with the name `m` in the place of `n`. -/
def Tree.replace (n m : String) (script : Tree) : Tree :=
  script.rename fun x => if x = n then m else x

section
variable {π π' : String → String}

mutual

/-- Renaming depends on the names that are there. -/
theorem Expr.rename_congr : (e : Expr) → (∀ x ∈ e.names, π x = π' x) → e.rename π = e.rename π'
  | .literal value, h => rfl
  | .ident name, h => by
    rw [Expr.rename, Expr.rename, h name (by rw [Expr.names]; exact List.mem_singleton_self _)]
  | .array items, h => by rw [Expr.rename, Expr.rename, renameItems_congr items h]
  | .object entries, h => by rw [Expr.rename, Expr.rename, renameEntries_congr entries h]
  | .member target name, h => by rw [Expr.rename, Expr.rename, Expr.rename_congr target h]
  | .index target key, h => by
    rw [Expr.rename, Expr.rename,
      Expr.rename_congr target fun x hx => h x (List.mem_append_left _ hx),
      Expr.rename_congr key fun x hx => h x (List.mem_append_right _ hx)]
  | .call callee args, h => by
    rw [Expr.rename, Expr.rename,
      Expr.rename_congr callee fun x hx => h x (List.mem_append_left _ hx),
      renameItems_congr args fun x hx => h x (List.mem_append_right _ hx)]
  | .unary op operand, h => by rw [Expr.rename, Expr.rename, Expr.rename_congr operand h]
  | .binary op left right, h => by
    rw [Expr.rename, Expr.rename,
      Expr.rename_congr left fun x hx => h x (List.mem_append_left _ hx),
      Expr.rename_congr right fun x hx => h x (List.mem_append_right _ hx)]
  | .conditional condition yes no, h => by
    rw [Expr.rename, Expr.rename,
      Expr.rename_congr condition fun x hx =>
        h x (List.mem_append_left _ (List.mem_append_left _ hx)),
      Expr.rename_congr yes fun x hx => h x (List.mem_append_left _ (List.mem_append_right _ hx)),
      Expr.rename_congr no fun x hx => h x (List.mem_append_right _ hx)]

/-- Two ways to rename that agree on the names of a list rename it alike. -/
theorem renameItems_congr : (items : List Expr) → (∀ x ∈ namesOfItems items, π x = π' x) →
    renameItems π items = renameItems π' items
  | [], h => rfl
  | e :: rest, h => by
    rw [renameItems, renameItems,
      Expr.rename_congr e fun x hx => h x (List.mem_append_left _ hx),
      renameItems_congr rest fun x hx => h x (List.mem_append_right _ hx)]

/-- They rename the entries of an object alike. -/
theorem renameEntries_congr : (entries : List (String × Expr)) →
    (∀ x ∈ namesOfEntries entries, π x = π' x) →
    renameEntries π entries = renameEntries π' entries
  | [], h => rfl
  | (key, e) :: rest, h => by
    rw [renameEntries, renameEntries,
      Expr.rename_congr e fun x hx => h x (List.mem_append_left _ hx),
      renameEntries_congr rest fun x hx => h x (List.mem_append_right _ hx)]

end

/-- They rename an output alike. -/
theorem Output.rename_congr {o : Output} (h : ∀ x ∈ o.names, π x = π' x) :
    o.rename π = o.rename π' := by
  cases o with
  | text s => rfl
  | value e escape trim => rw [Output.rename, Output.rename, Expr.rename_congr e h]

mutual

/-- They rename a statement alike if they agree on what it declares, too. -/
theorem Stmt.rename_congr : (s : Stmt) → (∀ x ∈ s.names, π x = π' x) →
    (∀ x ∈ s.binders, π x = π' x) → s.rename π = s.rename π'
  | .emit index, h, hb => rfl
  | .expr e, h, hb => by rw [Stmt.rename, Stmt.rename, Expr.rename_congr e h]
  | .declare name none, h, hb => by
    rw [Stmt.rename, Stmt.rename, hb name (List.mem_singleton_self _)]
  | .declare name (some e), h, hb => by
    rw [Stmt.rename, Stmt.rename, hb name (List.mem_singleton_self _), Expr.rename_congr e h]
  | .assign name op e, h, hb => by
    rw [Stmt.rename, Stmt.rename, h name (List.mem_cons_self ..),
      Expr.rename_congr e fun x hx => h x (List.mem_cons_of_mem _ hx)]
  | .branch condition yes none, h, hb => by
    rw [Stmt.rename, Stmt.rename,
      Expr.rename_congr condition fun x hx => h x (List.mem_append_left _ hx),
      Stmt.rename_congr yes (fun x hx => h x (List.mem_append_right _ hx)) hb]
  | .branch condition yes (some no), h, hb => by
    rw [Stmt.rename, Stmt.rename,
      Expr.rename_congr condition fun x hx =>
        h x (List.mem_append_left _ (List.mem_append_left _ hx)),
      Stmt.rename_congr yes
        (fun x hx => h x (List.mem_append_left _ (List.mem_append_right _ hx)))
        (fun x hx => hb x (List.mem_append_left _ hx)),
      Stmt.rename_congr no (fun x hx => h x (List.mem_append_right _ hx))
        (fun x hx => hb x (List.mem_append_right _ hx))]
  | .forOf name e body, h, hb => by
    rw [Stmt.rename, Stmt.rename, hb name (List.mem_cons_self ..),
      Expr.rename_congr e fun x hx => h x (List.mem_append_left _ hx),
      Stmt.rename_congr body (fun x hx => h x (List.mem_append_right _ hx))
        (fun x hx => hb x (List.mem_cons_of_mem _ hx))]
  | .forIn name e body, h, hb => by
    rw [Stmt.rename, Stmt.rename, hb name (List.mem_cons_self ..),
      Expr.rename_congr e fun x hx => h x (List.mem_append_left _ hx),
      Stmt.rename_congr body (fun x hx => h x (List.mem_append_right _ hx))
        (fun x hx => hb x (List.mem_cons_of_mem _ hx))]
  | .block body, h, hb => by rw [Stmt.rename, Stmt.rename, renameAll_congr body h hb]
  | .empty, h, hb => rfl

/-- They rename statements alike. -/
theorem renameAll_congr : (body : List Stmt) → (∀ x ∈ namesOfAll body, π x = π' x) →
    (∀ x ∈ bindersOfAll body, π x = π' x) → renameAll π body = renameAll π' body
  | [], h, hb => rfl
  | s :: rest, h, hb => by
    rw [renameAll, renameAll,
      Stmt.rename_congr s (fun x hx => h x (List.mem_append_left _ hx))
        (fun x hx => hb x (List.mem_append_left _ hx)),
      renameAll_congr rest (fun x hx => h x (List.mem_append_right _ hx))
        (fun x hx => hb x (List.mem_append_right _ hx))]

end

/-- They rename a script alike if they agree on all of its identifiers. -/
theorem Tree.rename_congr {script : Tree} (h : ∀ x ∈ script.identifiers, π x = π' x) :
    script.rename π = script.rename π' := by
  have hbody := renameAll_congr script.body
    (fun x hx => h x (List.mem_append_left _ (List.mem_append_left _ hx)))
    (fun x hx => h x (List.mem_append_left _ (List.mem_append_right _ hx)))
  have houtputs : script.outputs.map (Output.rename π) = script.outputs.map (Output.rename π') :=
    List.map_congr_left fun o ho => Output.rename_congr fun x hx =>
      h x (List.mem_append_right _ (List.mem_flatMap.2 ⟨o, ho, hx⟩))
  rw [Tree.rename, Tree.rename, hbody, houtputs]

end

/-- **The name of the data does not matter.** A script that has data named `n`, and the
script with `m` in the place of `n` that has it named `m`, where `m` is not in the script
otherwise, both give the same text or both fail. They ask for the same partials on the
way, and leave the same state. -/
theorem data_name_irrelevant {script : Tree} {n m : String} (hm : m ∉ script.identifiers)
    {σ : Type} (reply : String → Json → σ → Outcome String × σ) (data : Json) (s : σ) :
    let before := (script.run n data).answer reply s
    let after := ((script.replace n m).run m data).answer reply s
    (∃ text t, before = (.done text, t) ∧ after = (.done text, t)) ∨
      (∃ e e' t, before = (.fail e, t) ∧ after = (.fail e', t) ∧ Renamed (Equiv.swap n m) e e') ∨
      ∃ t, before = (.tooDeep, t) ∧ after = (.tooDeep, t) := by
  have hreplace : script.replace n m = script.rename (Equiv.swap n m) := by
    refine Tree.rename_congr fun x hx => ?_
    have hne : x ≠ m := fun heq => hm (heq ▸ hx)
    rw [Equiv.swap_apply_def, if_neg hne]
  have hkeeps : ∀ x ∈ script.identifiers, KeepsFunction (Equiv.swap n m) n x := by
    intro x hx hn
    have hne : x ≠ m := fun heq => hm (heq ▸ hx)
    rw [Equiv.swap_apply_of_ne_of_ne hn hne]
  have halike := run_rename (Equiv.swap n m).injective
    (fun x hx => hkeeps x (List.mem_append_left _ (List.mem_append_left _ hx)))
    (fun o ho x hx => hkeeps x (List.mem_append_right _ (List.mem_flatMap.2 ⟨o, ho, hx⟩))) data
  rw [Equiv.swap_apply_left, ← hreplace] at halike
  intro before after
  obtain ⟨houtcome, hstate⟩ : Outcome.Alike _ _ before.1 after.1 ∧ after.2 = before.2 :=
    halike.answer reply s
  generalize before = x at houtcome hstate
  generalize after = y at houtcome hstate
  obtain ⟨o, t⟩ := x
  obtain ⟨o', t'⟩ := y
  obtain rfl : t' = t := hstate
  cases houtcome with
  | done hab => exact .inl ⟨_, t', rfl, by rw [hab]⟩
  | fail he => exact .inr (.inl ⟨_, _, t', rfl, rfl, he⟩)
  | tooDeep => exact .inr (.inr ⟨t', rfl, rfl⟩)

/-- A loop variable that shadows the data and is assigned to, and a new name that is that of
a function. -/
theorem data_name_irrelevant_shadowed : ∃ script : Tree, "trim_eol" ∉ script.identifiers ∧
    let data : Json := .object [("items", .array [.string "a", .string "b"]), ("name", .string "<")]
    ∀ {σ : Type} (reply : String → Json → σ → Outcome String × σ) (s : σ),
      (script.run "z" data).answer reply s = (.done "a!b!&lt;", s) ∧
      ((script.replace "z" "trim_eol").run "trim_eol" data).answer reply s =
        (.done "a!b!&lt;", s) := by
  let script : Tree :=
    ⟨[.declare "x" (some (.member (.ident "z") "items")),
      .forOf "z" (.ident "x") (.block [.assign "z" .add (.literal (.string "!")), .emit 0]),
      .emit 1],
     [.value (.ident "z") false .none,
      .value (.call (.ident "escape_html") [.member (.ident "z") "name"]) false .none]⟩
  have hm : "trim_eol" ∉ script.identifiers := by decide
  refine ⟨script, hm, fun reply s => ?_⟩
  have hrun : (script.run "z" (.object [("items", .array [.string "a", .string "b"]),
      ("name", .string "<")])).answer reply s = (.done "a!b!&lt;", s) := by
    rfl
  refine ⟨hrun, ?_⟩
  rcases data_name_irrelevant hm reply _ s with ⟨text, t, hbefore, hafter⟩ | h | h
  · rw [hrun] at hbefore
    rw [hafter, hbefore]
  · obtain ⟨e, e', t, hbefore, -⟩ := h
    rw [hrun] at hbefore
    cases hbefore
  · obtain ⟨t, hbefore, -⟩ := h
    rw [hrun] at hbefore
    cases hbefore

end Stencil.Script
