import Stencil.Proofs.Rendering
import Stencil.Script.Run

/-!
# Stencil.Proofs.Script.Scopes

Scopes that a statement does not notice. Running a statement leaves as many
scopes as there were, and further scopes below the innermost one change nothing,
as long as they have none of the variables that the statement reads or assigns
to: it gives the same text and leaves them as they were (`exec_local`).

`Local` is what all statements share, and it is closed under all ways in which
statements are put together.
-/

namespace Stencil.Script

open Rendering (All)

/-! ## scopes -/

namespace Scopes

variable {name : String} {U scopes : Scopes}

/-- Scopes with others below the first `k`. -/
def splice (k : Nat) (U scopes : Scopes) : Scopes := scopes.take k ++ U ++ scopes.drop k

/-- At depth nothing the new scopes are the innermost ones. -/
@[simp] theorem splice_zero (U scopes : Scopes) : splice 0 U scopes = U ++ scopes := rfl

/-- Below a scope the new ones go further down. -/
@[simp] theorem splice_succ_cons (k : Nat) (U : Scopes) (scope : Scope) (scopes : Scopes) :
    splice (k + 1) U (scope :: scopes) = scope :: splice k U scopes := rfl

/-- A name is looked for in the inner scopes first. -/
theorem find?_append (name : String) (U scopes : Scopes) :
    find? name (U ++ scopes) = (find? name U).or (find? name scopes) := by
  rw [find?, List.findSome?_append]
  rfl

/-- The innermost scope hides the others. -/
theorem find?_cons (name : String) (scope : Scope) (scopes : Scopes) :
    find? name (scope :: scopes) = (scope.lookup name).or (find? name scopes) := by
  rw [find?, List.findSome?_cons]
  cases scope.lookup name <;> rfl

/-- Scopes without a variable of that name do not change what it stands for. -/
theorem find?_splice (h : find? name U = none) (k : Nat) (scopes : Scopes) :
    find? name (splice k U scopes) = find? name scopes := by
  have hwhole : find? name (scopes.take k ++ scopes.drop k) = find? name scopes := by
    rw [List.take_append_drop]
  rw [splice, find?_append, find?_append, h, Option.or_none, ← find?_append, hwhole]

/-- A declaration goes to the innermost scope, so it does not matter what is put in below. -/
theorem declare_splice {scopes : Scopes} (h : scopes ≠ []) (name : String) (value : Json)
    (k : Nat) (U : Scopes) :
    declare name value (splice (k + 1) U scopes) =
      splice (k + 1) U (declare name value scopes) := by
  cases scopes with
  | nil => contradiction
  | cons scope rest => rfl

/-- A declaration opens no scope. -/
theorem length_declare (name : String) (value : Json) (scopes : Scopes) :
    (declare name value scopes).length = scopes.length := by
  cases scopes with
  | nil => rfl
  | cons scope rest => rfl

/-- An assignment leaves out scopes without the variable. -/
theorem update?_append {change : Json → Json} (h : find? name U = none) (scopes : Scopes) :
    update? name change (U ++ scopes) = (update? name change scopes).map (U ++ ·) := by
  induction U with
  | nil => simp
  | cons scope U ih =>
    have hscope : scope.lookup name = none ∧ find? name U = none := by
      rwa [find?_cons, Option.or_eq_none_iff] at h
    rw [List.cons_append, update?, hscope.1]
    simp only [ih hscope.2, Option.map_map]
    rfl

/-- It does so wherever they are put in. -/
theorem update?_splice {change : Json → Json} (h : find? name U = none) (k : Nat)
    (scopes : Scopes) :
    update? name change (splice k U scopes) = (update? name change scopes).map (splice k U) := by
  induction k generalizing scopes with
  | zero => exact update?_append h scopes
  | succ k ih =>
    cases scopes with
    | nil =>
      have hnone : update? name change (U ++ []) = none := update?_append h []
      simpa [splice, update?] using hnone
    | cons scope rest =>
      rw [splice_succ_cons, update?, update?]
      split
      · rfl
      · rw [ih, Option.map_map, Option.map_map]
        rfl

/-- An assignment opens no scope. -/
theorem length_update? {change : Json → Json} {scopes after : Scopes}
    (h : update? name change scopes = some after) : after.length = scopes.length := by
  induction scopes generalizing after with
  | nil => cases h
  | cons scope rest ih =>
    rw [update?] at h
    split at h
    · obtain rfl := Option.some.inj h
      rfl
    · obtain ⟨rest', hrest, rfl⟩ := Option.map_eq_some_iff.1 h
      rw [List.length_cons, List.length_cons, ih hrest]

end Scopes

/-! ## variables -/

mutual

/-- The variables that an expression reads. -/
def Expr.names : Expr → List String
  | .literal _ => []
  | .ident name => [name]
  | .array items => namesOfItems items
  | .object entries => namesOfEntries entries
  | .member target _ => target.names
  | .index target key => target.names ++ key.names
  | .call callee args => callee.names ++ namesOfItems args
  | .unary _ operand => operand.names
  | .binary _ left right => left.names ++ right.names
  | .conditional condition yes no => condition.names ++ yes.names ++ no.names

/-- The variables that expressions read. -/
def namesOfItems : List Expr → List String
  | [] => []
  | e :: rest => e.names ++ namesOfItems rest

/-- The variables that the entries of an object read. -/
def namesOfEntries : List (String × Expr) → List String
  | [] => []
  | (_, e) :: rest => e.names ++ namesOfEntries rest

end

/-- The variables that an output reads. -/
def Output.names : Output → List String
  | .text _ => []
  | .value e _ _ => e.names

mutual

/-- The variables that a statement reads or assigns to. -/
def Stmt.names : Stmt → List String
  | .emit _ => []
  | .expr e => e.names
  | .declare _ none => []
  | .declare _ (some e) => e.names
  | .assign name _ e => name :: e.names
  | .branch condition yes none => condition.names ++ yes.names
  | .branch condition yes (some no) => condition.names ++ yes.names ++ no.names
  | .forOf _ e body => e.names ++ body.names
  | .forIn _ e body => e.names ++ body.names
  | .block body => namesOfAll body
  | .empty => []

/-- The variables that statements read or assign to. -/
def namesOfAll : List Stmt → List String
  | [] => []
  | s :: rest => s.names ++ namesOfAll rest

end

/-! ## expressions -/

section
variable (ctx : Context) {scopes scopes' : Scopes}

mutual

/-- The value of an expression depends on the variables that it reads. -/
theorem eval_congr : (e : Expr) → (∀ x ∈ e.names, scopes.find? x = scopes'.find? x) →
    eval ctx scopes e = eval ctx scopes' e
  | .literal value, h => by rw [eval, eval]
  | .ident name, h => by
    have hname := h name (by rw [Expr.names]; exact List.mem_singleton_self _)
    rw [eval, eval, nameValue, nameValue, hname]
  | .array items, h => by rw [eval, eval, evalItems_congr items h]
  | .object entries, h => by rw [eval, eval, evalEntries_congr entries h]
  | .member target name, h => by rw [eval, eval, eval_congr target h]
  | .index target key, h => by
    rw [eval, eval, eval_congr target fun x hx => h x (List.mem_append_left _ hx),
      eval_congr key fun x hx => h x (List.mem_append_right _ hx)]
  | .call callee args, h => by
    have hargs := evalItems_congr args fun x hx => h x (List.mem_append_right _ hx)
    have hcallee : ∀ x ∈ callee.names, scopes.find? x = scopes'.find? x :=
      fun x hx => h x (List.mem_append_left _ hx)
    cases callee with
    | ident name =>
      have hname := hcallee name (by rw [Expr.names]; exact List.mem_singleton_self _)
      rw [eval, eval, isBound, isBound, hname, hargs]
    | member target name => rw [eval, eval, eval_congr target hcallee, hargs]
    | _ => rfl
  | .unary op operand, h => by rw [eval, eval, eval_congr operand h]
  | .binary op left right, h => by
    rw [eval, eval, eval_congr left fun x hx => h x (List.mem_append_left _ hx),
      eval_congr right fun x hx => h x (List.mem_append_right _ hx)]
  | .conditional condition yes no, h => by
    rw [eval, eval,
      eval_congr condition fun x hx => h x (List.mem_append_left _ (List.mem_append_left _ hx)),
      eval_congr yes fun x hx => h x (List.mem_append_left _ (List.mem_append_right _ hx)),
      eval_congr no fun x hx => h x (List.mem_append_right _ hx)]

/-- The same holds of the expressions in an array or a call. -/
theorem evalItems_congr : (items : List Expr) →
    (∀ x ∈ namesOfItems items, scopes.find? x = scopes'.find? x) →
    evalItems ctx scopes items = evalItems ctx scopes' items
  | [], h => by rw [evalItems, evalItems]
  | e :: rest, h => by
    rw [evalItems, evalItems, eval_congr e fun x hx => h x (List.mem_append_left _ hx),
      evalItems_congr rest fun x hx => h x (List.mem_append_right _ hx)]

/-- The same holds of the entries of an object. -/
theorem evalEntries_congr : (entries : List (String × Expr)) →
    (∀ x ∈ namesOfEntries entries, scopes.find? x = scopes'.find? x) →
    evalEntries ctx scopes entries = evalEntries ctx scopes' entries
  | [], h => by rw [evalEntries, evalEntries]
  | (key, e) :: rest, h => by
    rw [evalEntries, evalEntries, eval_congr e fun x hx => h x (List.mem_append_left _ hx),
      evalEntries_congr rest fun x hx => h x (List.mem_append_right _ hx)]

end

end

/-- None of the scopes has one of the variables. -/
def Lacks (U : Scopes) (names : List String) : Prop := ∀ x ∈ names, U.find? x = none

section
variable {U : Scopes} {names names' : List String}

/-- Scopes that lack some names lack the first of them. -/
theorem Lacks.left (h : Lacks U (names ++ names')) : Lacks U names :=
  fun x hx => h x (List.mem_append_left _ hx)

/-- They lack the others, too. -/
theorem Lacks.right (h : Lacks U (names ++ names')) : Lacks U names' :=
  fun x hx => h x (List.mem_append_right _ hx)

/-- Scopes without the names of an expression do not change its value. -/
theorem eval_splice (ctx : Context) {e : Expr} (h : Lacks U e.names) (k : Nat) (scopes : Scopes) :
    eval ctx (Scopes.splice k U scopes) e = eval ctx scopes e :=
  eval_congr ctx e fun x hx => Scopes.find?_splice (h x hx) k scopes

/-- They do not change the text of an output either. -/
theorem outputText_splice (ctx : Context) {o : Output} (h : Lacks U o.names) (k : Nat)
    (scopes : Scopes) : outputText ctx (Scopes.splice k U scopes) o = outputText ctx scopes o := by
  cases o with
  | text s => rfl
  | value e escape trim => rw [outputText, outputText, eval_splice ctx h]

end

/-! ## statements -/

/-- A frame with scopes below its first `k` ones, and with a text in front of its
own. -/
def Frame.within (k : Nat) (U : Scopes) (before : String) (frame : Frame) : Frame where
  scopes := Scopes.splice k U frame.scopes
  text := before ++ frame.text

/-- What a run leaves behind has as many scopes as there were, and scopes `U` below
the innermost one and a text in front do not matter. -/
structure Local (U : Scopes) (before : String) (run : Frame → Rendering Frame) : Prop where
  length : ∀ frame, (run frame).All fun after => after.scopes.length = frame.scopes.length
  within : ∀ k frame, frame.scopes ≠ [] →
    run (frame.within (k + 1) U before) = Frame.within (k + 1) U before <$> run frame

namespace Local

variable {α : Type} {U : Scopes} {before : String} {run run' : Frame → Rendering Frame}

/-- Doing nothing is local. -/
theorem pure : Local U before (fun frame => Pure.pure frame) :=
  ⟨fun _ => rfl, fun _ _ _ => rfl⟩

/-- Reading a value and going on with it. -/
theorem read {f : Scopes → Rendering α} {g : α → Frame → Rendering Frame}
    (hf : ∀ k scopes, f (Scopes.splice k U scopes) = f scopes) (hg : ∀ a, Local U before (g a)) :
    Local U before (fun frame => f frame.scopes >>= fun a => g a frame) := by
  constructor
  · exact fun frame => (Rendering.all_true _).bind fun a _ => (hg a).length frame
  · intro k frame hne
    have hscopes : f (frame.within (k + 1) U before).scopes = f frame.scopes := hf _ _
    rw [hscopes, map_bind]
    exact (Rendering.all_true _).bind_congr fun a _ => (hg a).within k frame hne

/-- What begins with a value is local if what goes on with the value is. -/
theorem value (ctx : Context) {e : Expr} (h : Lacks U e.names)
    {g : Json → Frame → Rendering Frame} (hg : ∀ v, Local U before (g v)) :
    Local U before (fun frame => eval ctx frame.scopes e >>= fun v => g v frame) :=
  read (f := fun scopes => eval ctx scopes e) (eval_splice ctx h) hg

/-- Declaring a variable. -/
theorem declare (name : String) (v : Json) : Local U before (fun frame =>
    Pure.pure { frame with scopes := frame.scopes.declare name v }) := by
  constructor
  · exact fun frame => Scopes.length_declare name v frame.scopes
  · intro k frame hne
    rw [Frame.within, Scopes.declare_splice hne]
    rfl

/-- Assigning to a variable that none of the scopes has. -/
theorem update {name : String} (h : U.find? name = none) (change : Json → Json) :
    Local U before (fun frame =>
      match frame.scopes.update? name change with
      | some scopes => Pure.pure { frame with scopes }
      | none => failWith (.notDeclared name)) := by
  constructor
  · intro frame
    split
    · next scopes hscopes => exact Scopes.length_update? hscopes
    · trivial
  · intro k frame hne
    rw [Frame.within, Scopes.update?_splice h]
    cases frame.scopes.update? name change with
    | none => rfl
    | some scopes => rfl

/-- One run after the other. -/
theorem seq (h : Local U before run) (h' : Local U before run') :
    Local U before (fun frame => run frame >>= run') := by
  constructor
  · exact fun frame => (h.length frame).bind fun after hafter =>
      (h'.length after).imp fun _ heq => heq.trans hafter
  · intro k frame hne
    rw [h.within k frame hne, map_bind, bind_map_left]
    refine (h.length frame).bind_congr fun after hafter => h'.within k after fun hnil => ?_
    rw [hnil] at hafter
    exact hne (List.eq_nil_of_length_eq_zero hafter.symm)

/-- Running in a scope of its own. -/
theorem inScope (h : Local U before run) (scope : Scope) :
    Local U before (Script.inScope scope run) := by
  constructor
  · intro frame
    refine (h.length _).bind fun after hafter => ?_
    have htail : after.scopes.tail.length = frame.scopes.length := by
      rw [List.length_tail, hafter]
      rfl
    exact htail
  · intro k frame hne
    have hstart : ({ frame.within (k + 1) U before with
        scopes := scope :: (frame.within (k + 1) U before).scopes } : Frame) =
          Frame.within (k + 2) U before { frame with scopes := scope :: frame.scopes } := rfl
    rw [Script.inScope, Script.inScope, hstart, h.within _ _ (by simp), map_bind, bind_map_left]
    refine (h.length _).bind_congr fun after hafter => ?_
    obtain ⟨scopes, text⟩ := after
    cases scopes with
    | nil => cases hafter
    | cons scope' rest => rfl

/-- The turns of a loop. -/
theorem turns (h : Local U before run) (name : String) (values : List Json) :
    Local U before (Script.turns name run values) := by
  induction values with
  | nil => exact pure
  | cons value rest ih => exact (h.inScope [(name, value)]).seq ih

end Local

section
variable (outputs : List Output) (ctx : Context)

/-- An output appends its text. -/
theorem exec_emit (index : Nat) : exec outputs ctx (.emit index) = fun frame =>
    match outputs[index]? with
    | none => pure frame
    | some o => outputText ctx frame.scopes o >>= fun text =>
        pure { frame with text := frame.text ++ text } := by
  funext frame
  unfold exec
  rfl

/-- An expression is evaluated, and its value is dropped. -/
theorem exec_expr (e : Expr) : exec outputs ctx (.expr e) = fun frame =>
    eval ctx frame.scopes e >>= fun _ => pure frame := funext fun frame => by rw [exec]

/-- A variable without a value is null. -/
theorem exec_declare (name : String) : exec outputs ctx (.declare name none) = fun frame =>
    pure { frame with scopes := frame.scopes.declare name .null } :=
  funext fun frame => by rw [exec]

/-- A variable with a value is declared after the value is found. -/
theorem exec_declareAs (name : String) (e : Expr) :
    exec outputs ctx (.declare name (some e)) = fun frame => eval ctx frame.scopes e >>= fun v =>
      pure { frame with scopes := frame.scopes.declare name v } := funext fun frame => by rw [exec]

/-- An assignment changes the innermost variable of the name, and fails without one. -/
theorem exec_assign (name : String) (op : AssignOp) (e : Expr) :
    exec outputs ctx (.assign name op e) = fun frame => eval ctx frame.scopes e >>= fun v =>
      match frame.scopes.update? name (assigned op v) with
      | some scopes => pure { frame with scopes }
      | none => failWith (.notDeclared name) := by
  funext frame
  unfold exec
  rfl

/-- Without an `else` nothing happens unless the condition holds. -/
theorem exec_branch (condition : Expr) (yes : Stmt) :
    exec outputs ctx (.branch condition yes none) = fun frame =>
      eval ctx frame.scopes condition >>= fun c =>
        (if truthy c then inScope [] (exec outputs ctx yes) else pure) frame := by
  funext frame
  rw [exec]
  congr 1
  funext c
  split <;> rfl

/-- Either branch runs in a scope of its own. -/
theorem exec_branchElse (condition : Expr) (yes no : Stmt) :
    exec outputs ctx (.branch condition yes (some no)) = fun frame =>
      eval ctx frame.scopes condition >>= fun c =>
        (if truthy c then inScope [] (exec outputs ctx yes)
          else inScope [] (exec outputs ctx no)) frame := by
  funext frame
  rw [exec]
  congr 1
  funext c
  split <;> rfl

/-- A loop over items takes its turns over what the value has as items. -/
theorem exec_forOf (name : String) (e : Expr) (body : Stmt) :
    exec outputs ctx (.forOf name e body) = fun frame => eval ctx frame.scopes e >>= fun v =>
      (fun frame => ofResult (loopItems v) >>= fun values =>
        turns name (exec outputs ctx body) values frame) frame := funext fun frame => by rw [exec]

/-- A loop over keys takes its turns over the keys of the value. -/
theorem exec_forIn (name : String) (e : Expr) (body : Stmt) :
    exec outputs ctx (.forIn name e body) = fun frame => eval ctx frame.scopes e >>= fun v =>
      turns name (exec outputs ctx body) (loopKeys v) frame := funext fun frame => by rw [exec]

/-- A block runs in a scope of its own. -/
theorem exec_block (body : List Stmt) :
    exec outputs ctx (.block body) = inScope [] (execAll outputs ctx body) :=
  funext fun frame => by rw [exec]

/-- An empty statement does nothing. -/
theorem exec_empty : exec outputs ctx .empty = pure := funext fun frame => by rw [exec]

/-- No statements do nothing. -/
theorem execAll_nil : execAll outputs ctx [] = pure := funext fun frame => by rw [execAll]

/-- Statements run one after the other. -/
theorem execAll_cons (s : Stmt) (rest : List Stmt) : execAll outputs ctx (s :: rest) =
    fun frame => exec outputs ctx s frame >>= execAll outputs ctx rest :=
  funext fun frame => by rw [execAll]

end

section
variable {U : Scopes} {outputs : List Output} (ctx : Context) (before : String)

mutual

/-- Statements do not notice scopes that have none of their variables. -/
theorem exec_local (ho : ∀ o ∈ outputs, Lacks U o.names) :
    (s : Stmt) → Lacks U s.names → Local U before (exec outputs ctx s)
  | .emit index, h => by
    rw [exec_emit]
    cases hget : outputs[index]? with
    | none => exact .pure
    | some o =>
      refine .read (f := fun scopes => outputText ctx scopes o)
        (outputText_splice ctx (ho o (List.mem_of_getElem? hget))) fun text => ?_
      exact ⟨fun _ => rfl, fun k frame _ => by simp [Frame.within, String.append_assoc]⟩
  | .expr e, h => by
    rw [exec_expr]
    exact .value ctx h fun _ => .pure
  | .declare name none, h => by
    rw [exec_declare]
    exact .declare name .null
  | .declare name (some e), h => by
    rw [exec_declareAs]
    exact .value ctx h fun v => .declare name v
  | .assign name op e, h => by
    rw [exec_assign]
    exact .value ctx (fun x hx => h x (List.mem_cons_of_mem _ hx)) fun v =>
      .update (h name (List.mem_cons_self ..)) (assigned op v)
  | .branch condition yes none, h => by
    have hyes := exec_local ho yes h.right
    rw [exec_branch]
    refine .value ctx h.left fun c => ?_
    split
    · exact hyes.inScope []
    · exact .pure
  | .branch condition yes (some no), h => by
    have hyes := exec_local ho yes h.left.right
    have hno := exec_local ho no h.right
    rw [exec_branchElse]
    refine .value ctx h.left.left fun c => ?_
    split
    · exact hyes.inScope []
    · exact hno.inScope []
  | .forOf name e body, h => by
    have hbody := exec_local ho body h.right
    rw [exec_forOf]
    exact .value ctx h.left fun v => .read (f := fun _ => ofResult (loopItems v))
      (fun _ _ => rfl) fun values => hbody.turns name values
  | .forIn name e body, h => by
    have hbody := exec_local ho body h.right
    rw [exec_forIn]
    exact .value ctx h.left fun v => hbody.turns name (loopKeys v)
  | .block body, h => by
    have hbody := execAll_local ho body h
    rw [exec_block]
    exact hbody.inScope []
  | .empty, h => by
    rw [exec_empty]
    exact .pure

/-- Statements one after the other do not notice them either. -/
theorem execAll_local (ho : ∀ o ∈ outputs, Lacks U o.names) :
    (body : List Stmt) → Lacks U (namesOfAll body) → Local U before (execAll outputs ctx body)
  | [], h => by
    rw [execAll_nil]
    exact .pure
  | s :: rest, h => by
    have hs := exec_local ho s h.left
    have hrest := execAll_local ho rest h.right
    rw [execAll_cons]
    exact hs.seq hrest

end

/-- An empty scope lacks every variable. -/
theorem lacks_nil (names : List String) : Lacks [[]] names := fun _ _ => rfl

/-- A scope that begins empty is no scope more in one that does. -/
theorem inScope_inScope {run : Frame → Rendering Frame} (h : Local [[]] "" run) :
    inScope [] (inScope [] run) = inScope [] run := by
  funext frame
  have hstart : ({ frame with scopes := [] :: [] :: frame.scopes } : Frame) =
      Frame.within 1 [[]] "" { frame with scopes := [] :: frame.scopes } := by
    rw [Frame.within, String.empty_append]
    rfl
  have hwithin : run (Frame.within 1 [[]] "" { frame with scopes := [] :: frame.scopes }) =
      Frame.within 1 [[]] "" <$> run { frame with scopes := [] :: frame.scopes } :=
    h.within 0 _ (by simp)
  have hpop : ∀ after : Frame,
      ({ Frame.within 1 [[]] "" after with
        scopes := (Frame.within 1 [[]] "" after).scopes.tail.tail } : Frame) =
        { after with scopes := after.scopes.tail } := by
    rintro ⟨scopes, text⟩
    rw [Frame.within, String.empty_append]
    cases scopes <;> rfl
  simp only [inScope, hstart, hwithin, bind_map_left, bind_assoc, pure_bind, hpop]

end

end Stencil.Script
