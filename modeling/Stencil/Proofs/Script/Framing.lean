import Stencil.Proofs.Script.Scopes

/-!
# Stencil.Proofs.Script.Framing

What a statement leaves as it was. Only a declaration adds a variable, to the
innermost scope; a variable gets another value only where an assignment to its
name stands in the statement; and text is only ever added at the end
(`kept_of_exec`).

`Frame.Kept` is the relation between what was there and what is there
afterwards. It goes through statements in a row, and a run in a scope of its own
forgets what it declares (`Framed.inScope`), which is why branches, loops and
blocks declare nothing. `exec_framed` puts this together over the statements.

What a loop runs over is no part of that relation: `Turns` follows its turns.
-/

namespace Stencil.Script

open Rendering (All Outcome)

/-! ## one scope -/

/-- The names of the variables of a scope. -/
def Scope.names (scope : Scope) : List String := scope.map Prod.fst

namespace Scope

variable {name x : String} {scope scope' scope'' : Scope}
  {declared declared' assigned assigned' : List String}

/-- A name has a value in a scope just if it is one of the names of the scope. -/
theorem isSome_lookup_iff : (scope.lookup x).isSome ↔ x ∈ scope.names := by
  rw [List.lookup_isSome_iff, names, List.mem_map]
  simp only [beq_iff_eq, eq_comm (a := x)]

/-- Setting a variable adds its name and no other. -/
theorem mem_names_set {value : Json} :
    x ∈ (scope.set name value).names ↔ x ∈ scope.names ∨ x = name := by
  induction scope with
  | nil => simp [set, names]
  | cons entry rest ih =>
    obtain ⟨y, v⟩ := entry
    rw [set]
    split
    · next heq =>
      have habsorb : x = name → x ∈ names ((y, v) :: rest) := fun h => by simp [names, heq, h]
      exact (or_iff_left_of_imp habsorb).symm
    · simp only [names, List.map_cons, List.mem_cons] at ih ⊢
      rw [ih, or_assoc]

/-- Setting a variable changes no other one. -/
theorem lookup_set_of_ne (h : x ≠ name) (value : Json) :
    (scope.set name value).lookup x = scope.lookup x := by
  induction scope with
  | nil =>
    have hbeq : (x == name) = false := beq_false_of_ne h
    rw [set, List.lookup_cons, hbeq]
  | cons entry rest ih =>
    obtain ⟨y, v⟩ := entry
    rw [set]
    split
    · next heq =>
      have hbeq : (x == y) = false := beq_false_of_ne (heq ▸ h)
      rw [List.lookup_cons, List.lookup_cons, hbeq]
    · rw [List.lookup_cons, List.lookup_cons, ih]

/-- A scope has the variables it had and the declared ones. Of those that it had,
only the ones that are declared again or assigned to have another value. -/
structure Kept (assigned declared : List String) (before after : Scope) : Prop where
  names : ∀ x, x ∈ after.names ↔ x ∈ before.names ∨ x ∈ declared
  values : ∀ x, x ∉ declared → x ∉ assigned → after.lookup x = before.lookup x

namespace Kept

/-- A scope is kept as it is. -/
theorem refl (assigned : List String) (scope : Scope) : Kept assigned [] scope scope :=
  ⟨fun _ => by simp, fun _ _ _ => rfl⟩

/-- What two steps keep of a scope both keep. -/
theorem trans (h : Kept assigned declared scope scope')
    (h' : Kept assigned declared' scope' scope'') :
    Kept assigned (declared ++ declared') scope scope'' := by
  constructor
  · intro x
    rw [h'.names, h.names, List.mem_append, or_assoc]
  · intro x hdeclared hassigned
    rw [List.mem_append, not_or] at hdeclared
    rw [h'.values x hdeclared.2 hassigned, h.values x hdeclared.1 hassigned]

/-- More names may be allowed to be assigned. -/
theorem mono (h : Kept assigned declared scope scope') (hsub : assigned ⊆ assigned') :
    Kept assigned' declared scope scope' :=
  ⟨h.names, fun x hdeclared hassigned => h.values x hdeclared fun hx => hassigned (hsub hx)⟩

/-- A declaration keeps the other variables of a scope. -/
theorem declare (assigned : List String) (name : String) (value : Json) (scope : Scope) :
    Kept assigned [name] scope (scope.set name value) := by
  constructor
  · intro x
    rw [mem_names_set, List.mem_singleton]
  · intro x hdeclared _
    rw [List.mem_singleton] at hdeclared
    exact lookup_set_of_ne hdeclared value

/-- A variable that is there gets another value. -/
theorem assign (hname : name ∈ scope.names) (hassigned : name ∈ assigned) (value : Json) :
    Kept assigned [] scope (scope.set name value) := by
  constructor
  · intro x
    have habsorb : x = name → x ∈ scope.names := by
      rintro rfl
      exact hname
    rw [mem_names_set, or_iff_left_of_imp habsorb]
    simp
  · intro x _ hx
    have hne : x ≠ name := by
      rintro rfl
      exact hx hassigned
    exact lookup_set_of_ne hne value

end Kept

end Scope

/-! ## scopes -/

namespace Scopes

variable {name x : String} {scopes scopes' scopes'' : Scopes}
  {declared declared' assigned assigned' : List String}

/-- There are as many scopes, and what is declared is declared in the innermost one. -/
inductive Kept (assigned : List String) : List String → Scopes → Scopes → Prop where
  | nil {declared : List String} : Kept assigned declared [] []
  | cons {declared : List String} {scope scope' : Scope} {rest rest' : Scopes} :
      Scope.Kept assigned declared scope scope' → Kept assigned [] rest rest' →
      Kept assigned declared (scope :: rest) (scope' :: rest')

namespace Kept

/-- Scopes are kept as they are. -/
theorem refl (assigned : List String) (scopes : Scopes) : Kept assigned [] scopes scopes := by
  induction scopes with
  | nil => exact .nil
  | cons scope rest ih => exact .cons (.refl assigned scope) ih

/-- What two steps keep of the scopes both keep. -/
theorem trans (h : Kept assigned declared scopes scopes')
    (h' : Kept assigned declared' scopes' scopes'') :
    Kept assigned (declared ++ declared') scopes scopes'' := by
  induction h generalizing declared' scopes'' with
  | nil =>
    cases h'
    exact .nil
  | cons hscope _ ih =>
    cases h' with
    | cons hscope' hrest' => exact .cons (hscope.trans hscope') (ih hrest')

/-- More names may be allowed to be assigned. -/
theorem mono (h : Kept assigned declared scopes scopes') (hsub : assigned ⊆ assigned') :
    Kept assigned' declared scopes scopes' := by
  induction h with
  | nil => exact .nil
  | cons hscope _ ih => exact .cons (hscope.mono hsub) ih

/-- A declaration keeps the other variables of all scopes. -/
theorem declare (assigned : List String) (name : String) (value : Json) (scopes : Scopes) :
    Kept assigned [name] scopes (scopes.declare name value) := by
  cases scopes with
  | nil => exact .nil
  | cons scope rest => exact .cons (.declare assigned name value scope) (.refl assigned rest)

/-- An assignment keeps all variables but the one of its name. -/
theorem update {change : Json → Json} (hassigned : name ∈ assigned)
    (h : update? name change scopes = some scopes') : Kept assigned [] scopes scopes' := by
  induction scopes generalizing scopes' with
  | nil => cases h
  | cons scope rest ih =>
    rw [update?] at h
    split at h
    · next value hvalue =>
      obtain rfl := Option.some.inj h
      have hname : name ∈ scope.names := Scope.isSome_lookup_iff.1 (by rw [hvalue]; rfl)
      exact .cons (.assign hname hassigned (change value)) (.refl assigned rest)
    · obtain ⟨rest', hrest, rfl⟩ := Option.map_eq_some_iff.1 h
      exact .cons (.refl assigned scope) (ih hrest)

/-- What is declared in a scope that is gone is not declared. -/
theorem tail {scope : Scope} (h : Kept assigned declared (scope :: scopes) scopes') :
    Kept assigned [] scopes scopes'.tail := by
  cases h with
  | cons _ hrest => exact hrest

/-- As many scopes are open as before. -/
theorem length_eq (h : Kept assigned declared scopes scopes') : scopes'.length = scopes.length := by
  induction h with
  | nil => rfl
  | cons _ _ ih => rw [List.length_cons, List.length_cons, ih]

/-- Each scope is kept, and only the innermost may have new names. -/
theorem getElem? {i : Nat} {scope scope' : Scope} (h : Kept assigned declared scopes scopes')
    (hscope : scopes[i]? = some scope) (hscope' : scopes'[i]? = some scope') :
    Scope.Kept assigned (if i = 0 then declared else []) scope scope' := by
  induction h generalizing i with
  | nil => simp at hscope
  | cons hkept _ ih =>
    cases i with
    | zero =>
      obtain rfl := Option.some.inj hscope
      obtain rfl := Option.some.inj hscope'
      exact hkept
    | succ i =>
      have hrest := ih hscope hscope'
      rw [ite_self] at hrest
      exact hrest

/-- A name that is not declared stands for something just if it did before. -/
theorem isSome_find? (h : Kept assigned declared scopes scopes') (hx : x ∉ declared) :
    (find? x scopes').isSome = (find? x scopes).isSome := by
  induction h with
  | nil => rfl
  | @cons _ scope scope' _ _ hkept _ ih =>
    have hhead : (scope'.lookup x).isSome = (scope.lookup x).isSome := by
      rw [Bool.eq_iff_iff, Scope.isSome_lookup_iff, Scope.isSome_lookup_iff, hkept.names,
        or_iff_left hx]
    rw [find?_cons, find?_cons, Option.isSome_or, Option.isSome_or, hhead, ih List.not_mem_nil]

/-- A name that is neither declared nor assigned stands for what it stood for. -/
theorem find?_eq (h : Kept assigned declared scopes scopes') (hx : x ∉ declared)
    (hassigned : x ∉ assigned) : find? x scopes' = find? x scopes := by
  induction h with
  | nil => rfl
  | cons hkept _ ih =>
    rw [find?_cons, find?_cons, hkept.values x hx hassigned, ih List.not_mem_nil]

end Kept

end Scopes

/-! ## frames -/

/-- The scopes are kept but for what is declared and assigned to, and text is added
at the end only. -/
structure Frame.Kept (assigned declared : List String) (before after : Frame) : Prop where
  scopes : Scopes.Kept assigned declared before.scopes after.scopes
  text : ∃ text, after.text = before.text ++ text

namespace Frame.Kept

variable {frame frame' frame'' : Frame} {declared declared' assigned assigned' : List String}

/-- The text is the same. -/
theorem of_scopes {scopes : Scopes} (h : Scopes.Kept assigned declared frame.scopes scopes) :
    Kept assigned declared frame { frame with scopes } :=
  ⟨h, "", String.append_empty.symm⟩

/-- What two steps keep of a frame both keep. -/
theorem trans (h : Kept assigned declared frame frame')
    (h' : Kept assigned declared' frame' frame'') :
    Kept assigned (declared ++ declared') frame frame'' := by
  obtain ⟨text, htext⟩ := h.text
  obtain ⟨text', htext'⟩ := h'.text
  refine ⟨h.scopes.trans h'.scopes, text ++ text', ?_⟩
  rw [htext', htext, String.append_assoc]

/-- More names may be allowed to be assigned. -/
theorem mono (h : Kept assigned declared frame frame') (hsub : assigned ⊆ assigned') :
    Kept assigned' declared frame frame' :=
  ⟨h.scopes.mono hsub, h.text⟩

end Frame.Kept

/-- Whatever a run gives keeps what it was given. -/
def Framed (assigned declared : List String) (run : Frame → Rendering Frame) : Prop :=
  ∀ frame, (run frame).All (Frame.Kept assigned declared frame)

namespace Framed

variable {α : Type} {name : String} {declared declared' assigned assigned' : List String}
  {run run' : Frame → Rendering Frame}

/-- Doing nothing stays in its frame. -/
theorem pure : Framed assigned [] (fun frame => Pure.pure frame) :=
  fun frame => Frame.Kept.of_scopes (.refl assigned frame.scopes)

/-- Getting a value and going on with it. -/
theorem read {f : Frame → Rendering α} {g : α → Frame → Rendering Frame}
    (hg : ∀ a, Framed assigned declared (g a)) :
    Framed assigned declared (fun frame => f frame >>= fun a => g a frame) :=
  fun frame => (Rendering.all_true (f frame)).bind fun a _ => hg a frame

/-- So does writing. -/
theorem write (text : String) : Framed assigned [] (fun frame =>
    Pure.pure { frame with text := frame.text ++ text }) :=
  fun frame => ⟨.refl assigned frame.scopes, text, rfl⟩

/-- A declaration adds its name. -/
theorem declare (name : String) (value : Json) : Framed assigned [name] (fun frame =>
    Pure.pure { frame with scopes := frame.scopes.declare name value }) :=
  fun frame => Frame.Kept.of_scopes (.declare assigned name value frame.scopes)

/-- An assignment changes the variable of its name, or fails. -/
theorem update (hassigned : name ∈ assigned) (change : Json → Json) :
    Framed assigned [] (fun frame =>
      match frame.scopes.update? name change with
      | some scopes => Pure.pure { frame with scopes }
      | none => failWith (.notDeclared name)) := by
  intro frame
  dsimp only
  split
  · next scopes hscopes => exact Frame.Kept.of_scopes (.update hassigned hscopes)
  · trivial

/-- One run after the other. -/
theorem seq (h : Framed assigned declared run) (h' : Framed assigned declared' run') :
    Framed assigned (declared ++ declared') (fun frame => run frame >>= run') :=
  fun frame => (h frame).bind fun after hafter => (h' after).imp fun _ => hafter.trans

/-- What stays in a frame stays in a wider one. -/
theorem mono (h : Framed assigned declared run) (hsub : assigned ⊆ assigned') :
    Framed assigned' declared run :=
  fun frame => (h frame).imp fun _ hafter => hafter.mono hsub

/-- Running in a scope of its own declares nothing. -/
theorem inScope (h : Framed assigned declared run) (scope : Scope) :
    Framed assigned [] (Script.inScope scope run) := by
  intro frame
  refine (h { frame with scopes := scope :: frame.scopes }).bind fun after hafter => ?_
  exact ⟨hafter.scopes.tail, hafter.text⟩

/-- A loop declares nothing, its own variable included. -/
theorem turns (h : Framed assigned declared run) (name : String) (values : List Json) :
    Framed assigned [] (Script.turns name run values) := by
  induction values with
  | nil => exact pure
  | cons value rest ih => exact (h.inScope [(name, value)]).seq ih

end Framed

/-! ## statements -/

mutual

/-- The variables that a statement assigns to, at any depth. -/
def Stmt.assigns : Stmt → List String
  | .emit _ => []
  | .expr _ => []
  | .declare _ _ => []
  | .assign name _ _ => [name]
  | .branch _ yes none => yes.assigns
  | .branch _ yes (some no) => yes.assigns ++ no.assigns
  | .forOf _ _ body => body.assigns
  | .forIn _ _ body => body.assigns
  | .block body => assignsOfAll body
  | .empty => []

/-- The variables that statements assign to, at any depth. -/
def assignsOfAll : List Stmt → List String
  | [] => []
  | s :: rest => s.assigns ++ assignsOfAll rest

end

/-- The variable that a statement declares, if it is a declaration. What stands
inside of a statement is declared in a scope of its own. -/
def Stmt.declares : Stmt → List String
  | .declare name _ => [name]
  | _ => []

section
variable (outputs : List Output) (ctx : Context)

mutual

/-- A statement declares at most what it is a declaration of, and assigns at most to
what an assignment in it is for. -/
theorem exec_framed : (s : Stmt) → Framed s.assigns s.declares (exec outputs ctx s)
  | .emit index => by
    rw [exec_emit]
    cases outputs[index]? with
    | none => exact .pure
    | some o =>
      exact .read (f := fun frame => outputText ctx frame.scopes o) fun text => .write text
  | .expr e => by
    rw [exec_expr]
    exact .read (f := fun frame => eval ctx frame.scopes e) fun _ => .pure
  | .declare name none => by
    rw [exec_declare]
    exact .declare name .null
  | .declare name (some e) => by
    rw [exec_declareAs]
    exact .read (f := fun frame => eval ctx frame.scopes e) fun v => .declare name v
  | .assign name op e => by
    rw [exec_assign]
    have hname : name ∈ (Stmt.assign name op e).assigns := List.mem_singleton_self name
    exact .read (f := fun frame => eval ctx frame.scopes e) fun v =>
      .update hname (assigned op v)
  | .branch condition yes none => by
    have hyes := exec_framed yes
    rw [exec_branch]
    refine .read (f := fun frame => eval ctx frame.scopes condition) fun c => ?_
    split
    · exact hyes.inScope []
    · exact .pure
  | .branch condition yes (some no) => by
    have hyes := (exec_framed yes).mono (List.subset_append_left _ no.assigns)
    have hno := (exec_framed no).mono (List.subset_append_right yes.assigns _)
    rw [exec_branchElse]
    refine .read (f := fun frame => eval ctx frame.scopes condition) fun c => ?_
    split
    · exact hyes.inScope []
    · exact hno.inScope []
  | .forOf name e body => by
    have hbody := exec_framed body
    rw [exec_forOf]
    exact .read (f := fun frame => eval ctx frame.scopes e) fun v =>
      .read (f := fun _ => ofResult (loopItems v)) fun values => hbody.turns name values
  | .forIn name e body => by
    have hbody := exec_framed body
    rw [exec_forIn]
    exact .read (f := fun frame => eval ctx frame.scopes e) fun v =>
      hbody.turns name (loopKeys v)
  | .block body => by
    have hbody := execAll_framed body
    rw [exec_block]
    exact hbody.inScope []
  | .empty => by
    rw [exec_empty]
    exact .pure

/-- Statements in a row declare what the declarations among them declare. -/
theorem execAll_framed : (body : List Stmt) →
    Framed (assignsOfAll body) (body.flatMap Stmt.declares) (execAll outputs ctx body)
  | [] => by
    rw [execAll_nil]
    exact .pure
  | s :: rest => by
    have hs := (exec_framed s).mono (List.subset_append_left _ (assignsOfAll rest))
    have hrest := (execAll_framed rest).mono (List.subset_append_right s.assigns _)
    rw [execAll_cons, List.flatMap_cons]
    exact hs.seq hrest

end

end

/-! ## loops -/

section
variable {σ : Type} {reply : String → Json → σ → Outcome String × σ} {name : String}
  {run : Frame → Rendering Frame}

/-- The turns of a loop, one for each of the values. Each has its value in a scope of
its own, and begins with what the turn before left behind. -/
inductive Turns (reply : String → Json → σ → Outcome String × σ) (name : String)
    (run : Frame → Rendering Frame) : List Json → Frame × σ → Frame × σ → Prop where
  | done {last : Frame × σ} : Turns reply name run [] last last
  | next {value : Json} {rest : List Json} {frame after : Frame} {s s' : σ} {last : Frame × σ} :
      (run { frame with scopes := [(name, value)] :: frame.scopes }).answer reply s =
        (.done after, s') →
      Turns reply name run rest ({ after with scopes := after.scopes.tail }, s') last →
      Turns reply name run (value :: rest) (frame, s) last

/-- A loop that ends has taken its turns. -/
theorem turns_of_answer {values : List Json} {frame after : Frame} {s s' : σ}
    (h : (turns name run values frame).answer reply s = (.done after, s')) :
    Turns reply name run values (frame, s) (after, s') := by
  induction values generalizing frame s with
  | nil =>
    obtain ⟨rfl, rfl⟩ : frame = after ∧ s = s' := by simpa [turns, pure, Rendering.answer] using h
    exact .done
  | cons value rest ih =>
    rw [turns, inScope, bind_assoc] at h
    obtain ⟨turn, mid, hturn, hrest⟩ := Rendering.exists_of_answer_bind h
    rw [pure_bind] at hrest
    exact .next hturn (ih hrest)

/-- An operation that gives a result asks for nothing. -/
theorem eq_ok_of_answer {α : Type} {result : Except RuntimeCause α} {a : α} {s s' : σ}
    (h : (ofResult result).answer reply s = (.done a, s')) : result = .ok a ∧ s = s' := by
  cases result with
  | ok b => simpa [ofResult, Rendering.answer] using h
  | error cause => simp [ofResult, failWith, Rendering.answer] at h

variable {outputs : List Output} {ctx : Context} {e : Expr} {body : Stmt} {frame after : Frame}
  {s s' : σ}

/-- A loop over items takes a turn for each item that there was at the start. -/
theorem turns_of_forOf
    (h : (exec outputs ctx (.forOf name e body) frame).answer reply s = (.done after, s')) :
    ∃ v mid values, (eval ctx frame.scopes e).answer reply s = (.done v, mid) ∧
      loopItems v = .ok values ∧
      Turns reply name (exec outputs ctx body) values (frame, mid) (after, s') := by
  rw [exec_forOf] at h
  obtain ⟨v, mid, hv, hloop⟩ := Rendering.exists_of_answer_bind h
  obtain ⟨values, mid', hitems, hturns⟩ := Rendering.exists_of_answer_bind hloop
  obtain ⟨hvalues, rfl⟩ := eq_ok_of_answer hitems
  exact ⟨v, mid, values, hv, hvalues, turns_of_answer hturns⟩

/-- A loop over keys takes a turn for each key that there was at the start. -/
theorem turns_of_forIn
    (h : (exec outputs ctx (.forIn name e body) frame).answer reply s = (.done after, s')) :
    ∃ v mid, (eval ctx frame.scopes e).answer reply s = (.done v, mid) ∧
      Turns reply name (exec outputs ctx body) (loopKeys v) (frame, mid) (after, s') := by
  rw [exec_forIn] at h
  obtain ⟨v, mid, hv, hturns⟩ := Rendering.exists_of_answer_bind h
  exact ⟨v, mid, hv, turns_of_answer hturns⟩

end

/-! ## whole runs -/

/-- **Scopes and text are framed.** When a statement succeeds, whatever its partials
are:

* there are as many scopes as before, and each has the variables it had; a declaration,
  and nothing else, adds its own to the innermost scope;
* a variable has the value it had, unless the statement declares it or has, at any
  depth, an assignment to its name;
* the text is the text before with some text at the end;
* so a name that the statement does not declare is visible afterwards if it was before,
  and means the same if nothing was assigned to it: what is declared inside of the
  statement is gone;
* a loop takes one turn for each value that its expression had at the start. -/
theorem kept_of_exec {outputs : List Output} {ctx : Context} {σ : Type}
    {reply : String → Json → σ → Outcome String × σ} {stmt : Stmt} {frame after : Frame} {s s' : σ}
    (h : (exec outputs ctx stmt frame).answer reply s = (.done after, s')) :
    after.scopes.length = frame.scopes.length ∧
    (∀ (i : Nat) (scope scope' : Scope),
      frame.scopes[i]? = some scope → after.scopes[i]? = some scope' →
      (∀ x, x ∈ scope'.names ↔ x ∈ scope.names ∨ (i = 0 ∧ x ∈ stmt.declares)) ∧
      ∀ x, ¬ (i = 0 ∧ x ∈ stmt.declares) → x ∉ stmt.assigns →
        scope'.lookup x = scope.lookup x) ∧
    (∃ text, after.text = frame.text ++ text) ∧
    (∀ x ∉ stmt.declares,
      (after.scopes.find? x).isSome = (frame.scopes.find? x).isSome ∧
      (x ∉ stmt.assigns → after.scopes.find? x = frame.scopes.find? x)) ∧
    (∀ name e body, stmt = .forOf name e body → ∃ v mid values,
      (eval ctx frame.scopes e).answer reply s = (.done v, mid) ∧ loopItems v = .ok values ∧
      Turns reply name (exec outputs ctx body) values (frame, mid) (after, s')) ∧
    ∀ name e body, stmt = .forIn name e body → ∃ v mid,
      (eval ctx frame.scopes e).answer reply s = (.done v, mid) ∧
      Turns reply name (exec outputs ctx body) (loopKeys v) (frame, mid) (after, s') := by
  have hkept : Frame.Kept stmt.assigns stmt.declares frame after :=
    (exec_framed outputs ctx stmt frame).of_answer h
  refine ⟨hkept.scopes.length_eq, ?_, hkept.text, ?_, ?_, ?_⟩
  · intro i scope scope' hscope hscope'
    have hat := hkept.scopes.getElem? hscope hscope'
    have hdeclared : ∀ x, x ∈ (if i = 0 then stmt.declares else []) ↔
        i = 0 ∧ x ∈ stmt.declares := by
      intro x
      split <;> simp [*]
    refine ⟨fun x => ?_, fun x hx hassigned => ?_⟩
    · rw [hat.names, hdeclared]
    · exact hat.values x (fun hmem => hx ((hdeclared x).1 hmem)) hassigned
  · exact fun x hx => ⟨hkept.scopes.isSome_find? hx, hkept.scopes.find?_eq hx⟩
  · rintro name e body rfl
    exact turns_of_forOf h
  · rintro name e body rfl
    exact turns_of_forIn h

/-- A loop whose body assigns to the variable that it runs over, in scopes that have a
variable of the name that the body declares. -/
theorem kept_of_exec_loop :
    let body : Stmt := .block [.declare "y" (some (.ident "x")), .assign "t" .set (.ident "x"),
      .emit 0]
    let stmt : Stmt := .forOf "x" (.ident "t") body
    let frame : Frame := ⟨[[("z", .bool true)], [("t", .string "ab"), ("y", .null)]], "-"⟩
    let after : Frame :=
      ⟨[[("z", .bool true)], [("t", .string "b"), ("y", .null)]], "-a.b."⟩
    let outputs : List Output := [.value (.binary .add (.ident "y") (.literal (.string ".")))
      false .none]
    ∀ (reply : String → Json → Nat → Outcome String × Nat) (ctx : Context),
      (exec outputs ctx stmt frame).answer reply 0 = (.done after, 0) ∧
      (∃ text, after.text = frame.text ++ text) ∧
      (after.scopes.find? "x").isSome = (frame.scopes.find? "x").isSome ∧
      after.scopes.find? "y" = frame.scopes.find? "y" ∧
      Turns reply "x" (exec outputs ctx body) [.string "a", .string "b"] (frame, 0) (after, 0) := by
  intro body stmt frame after outputs reply ctx
  have hexec : (exec outputs ctx stmt frame).answer reply 0 = (.done after, 0) := by rfl
  obtain ⟨-, -, htext, hnames, hloop, -⟩ := kept_of_exec hexec
  have hy : "y" ∉ stmt.assigns := by decide
  obtain ⟨v, mid, values, hv, hvalues, hturns⟩ := hloop "x" (.ident "t") body rfl
  obtain ⟨rfl, rfl⟩ : Json.string "ab" = v ∧ 0 = mid := by
    have hstart : (eval ctx frame.scopes (.ident "t")).answer reply 0 =
        (.done (.string "ab"), 0) := by rfl
    simpa using hstart.symm.trans hv
  obtain rfl : [Json.string "a", Json.string "b"] = values := Except.ok.inj hvalues
  exact ⟨hexec, htext, (hnames "x" List.not_mem_nil).1, (hnames "y" List.not_mem_nil).2 hy, hturns⟩

end Stencil.Script
