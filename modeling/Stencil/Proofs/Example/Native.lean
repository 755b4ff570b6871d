import Stencil.Example.TodoList
import Stencil.Proofs.Codegen.Blocks

/-!
# Stencil.Proofs.Example.Native

The page of a list of things to do is what the function generated from `nativeTemplate`
writes, and a button is what the one generated from `buttonTemplate` writes. The code of the
templates is given its meaning, as far as they use it (`native`): variables, fields,
`is_empty`, an `if` between two texts, the call of the function for a button, and loops over
references to the things to do.
-/

namespace Stencil.Example.TodoList

open Codegen

/-! ## expressions -/

/-- A value in a generated function. -/
inductive Value where
  | text (s : String)
  | number (n : UInt32)
  | flag (b : Bool)
  | todo (todo : Todo)
  | todos (todos : List Todo)
  | list (list : TodoList)

/-- A field of a value. -/
def Value.field? : Value → String → Option Value
  | .list l, "title" => some (.text l.title)
  | .list l, "todos" => some (.todos l.todos)
  | .todo t, "id" => some (.number t.id)
  | .todo t, "label" => some (.text t.label)
  | .todo t, "done" => some (.flag t.done)
  | _, _ => none

/-- How a value is displayed, if it is. -/
def Value.shown? : Value → Option String
  | text s => some s
  | number n => some (toString n)
  | flag b => some (toString b)
  | _ => none

/-- The value that the fields and the calls after an expression come to. -/
def follow? : List Token → Value → Option Value
  | [], v => some v
  | .mark '.' _ :: .word "is_empty" :: .opening .round :: .closing .round :: rest, .todos todos =>
    follow? rest (.flag todos.isEmpty)
  | .mark '.' _ :: .word field :: rest, v => (v.field? field).bind (follow? rest)
  | _, _ => none

/-- The variables with their values, the innermost in front. -/
abbrev Variables := List (String × Value)

/-- The value of an expression that begins with a variable. -/
def value? (vars : Variables) : List Token → Option Value
  | .word name :: rest => (vars.lookup name).bind (follow? rest)
  | _ => none

/-- Whether a condition holds. -/
def holds? (vars : Variables) (ts : List Token) : Option Bool :=
  match value? vars ts with
  | some (.flag b) => some b
  | _ => none

/-- The text of an expression. -/
def shown? (vars : Variables) : List Token → Option String
  | .word "if" :: rest =>
    match block? rest with
    | some (condition, yes, .word "else" :: rest) =>
      match block? rest with
      | some ([], no, []) =>
        (holds? vars condition).bind fun holds =>
          operandText? (fun _ => none) (if holds then yes else no)
      | _ => none
    | _ => none
  | .word "crate" :: rest =>
    match call? rest with
    | some (["templates", "button"], argument, []) =>
      match value? vars argument with
      | some (.todo todo) => some todo.button
      | _ => none
    | _ => none
  | ts => (value? vars ts).bind Value.shown?

/-- What the variables are in the turns of a loop. -/
def turns? (vars : Variables) : List Token → Option (List Variables)
  | .word name :: .word "in" :: .mark '&' _ :: rest =>
    match value? vars rest with
    | some (.todos todos) => some (todos.map fun todo => (name, .todo todo) :: vars)
    | _ => none
  | _ => none

/-- What the code of the templates means. -/
def native : Meaning Variables := ⟨shown?, holds?, turns?⟩

/-! ## templates -/

/-- The parts of the template of a button. -/
def buttonParts : Parts :=
  .node (.literal "<button id=\"todo-") <| .node (.value " z.id " false .none) <|
    .node (.literal "\">") <| .node (.value " z.label " true .none) <|
      .node (.literal "</button>\n") .nil

/-- The parts of the line for a thing to do. -/
def lineParts : Parts :=
  .node (.literal "\n  <li class=\"") <|
    .node (.value " if todo.done \x7b \"done\" \x7d else \x7b \"open\" \x7d " false .none) <|
      .node (.literal "\">") <|
        .node (.value " crate::templates::button(todo) " false .blanks) <|
          .node (.literal "</li>\n") .nil

/-- The parts of the template of a page. -/
def pageParts : Parts :=
  .node (.literal "<h1>") <| .node (.value " z.title " true .none) <|
    .node (.literal "</h1>\n<ul>\n") <|
      .block " for todo in &z.todos \x7b " lineParts " \x7d " <|
        .node (.literal "\n</ul>\n") <|
          .block " if z.todos.is_empty() \x7b " (.node (.literal "<p>Nothing to do</p>") .nil)
            " \x7d " <|
            .node (.literal "\n") .nil

/-- The templates are read as these parts, whose code opens and closes blocks and is complete
otherwise. -/
theorem read_parts :
    (Program.build? .standard buttonTemplate = some buttonParts.nodes ∧
      buttonParts.areComplete = true) ∧
    Program.build? .standard nativeTemplate = some pageParts.nodes ∧
      pageParts.areComplete = true := by
  decide +kernel

/-- The tokens of the expressions in the template of a button. -/
theorem code_button :
    code " z.id " = [.word "z", .mark '.' false, .word "id"] ∧
    code " z.label " = [.word "z", .mark '.' false, .word "label"] := by
  decide +kernel

/-- The tokens of the expressions for a line. -/
theorem code_line :
    code " crate::templates::button(todo) " = .word "crate" :: (pathTokens ["templates", "button"] ++
      .opening .round :: ([.word "todo"] ++ .closing .round :: [])) ∧
    code " if todo.done \x7b \"done\" \x7d else \x7b \"open\" \x7d " = .word "if" ::
      ([.word "todo", .mark '.' false, .word "done"] ++ .opening .curly ::
        (operandTokens "&" (.literal "done") ++ .closing .curly :: .word "else" ::
          ([] ++ .opening .curly ::
            (operandTokens "&" (.literal "open") ++ .closing .curly :: [])))) := by
  decide +kernel

/-- The tokens of the expression and of the heads of blocks in the template of a page. -/
theorem code_page :
    code " z.title " = [.word "z", .mark '.' false, .word "title"] ∧
    Parts.head? " for todo in &z.todos \x7b " = some [.word "for", .word "todo", .word "in",
      .mark '&' false, .word "z", .mark '.' false, .word "todos"] ∧
    Parts.head? " if z.todos.is_empty() \x7b " = some [.word "if", .word "z", .mark '.' false,
      .word "todos", .mark '.' false, .word "is_empty", .opening .round, .closing .round] := by
  decide +kernel

/-! ## what they write -/

section
variable (vars : Variables) (todo : Todo) (list : TodoList)

/-- A line shows the button of its thing to do. -/
theorem shown?_button :
    shown? (("todo", .todo todo) :: vars) (code " crate::templates::button(todo) ") =
      some todo.button := by
  rw [code_line.1, shown?, call?_pathTokens _ rfl]
  rfl

/-- Its class says whether the thing is done. -/
theorem shown?_class :
    shown? (("todo", .todo todo) :: vars)
        (code " if todo.done \x7b \"done\" \x7d else \x7b \"open\" \x7d ") =
      some (if todo.done then "done" else "open") := by
  have hsign : "&" ∈ ["&", "&*"] := by simp
  have hcomplete (s : String) : balanced [] (operandTokens "&" (.literal s)) = true :=
    (complete_operandTokens (show completeNode (.literal s) = true from rfl) hsign).brackets
  have htext (s : String) :
      operandText? (fun _ => none) (operandTokens "&" (.literal s)) = some s :=
    operandText?_operandTokens rfl hsign fun _ => none
  have hholds : holds? (("todo", .todo todo) :: vars)
      [.word "todo", .mark '.' false, .word "done"] = some todo.done := rfl
  have hyes := block?_append
    (show Token.opening .curly ∉ [.word "todo", .mark '.' false, .word "done"] by decide)
    (hcomplete "done")
  have hno := block?_append (show Token.opening .curly ∉ [] by decide) (hcomplete "open") []
  rw [code_line.2, shown?, hyes]
  simp only [hno, hholds, Option.bind_some]
  cases todo.done with
  | true => exact htext "done"
  | false => exact htext "open"

/-- A line is what is written for a thing to do. -/
theorem text?_lineParts :
    lineParts.text? native (("todo", .todo todo) :: vars) = some todo.line := by
  have hclass := congrArg (Option.map id) (shown?_class vars todo)
  have hbutton := congrArg (Option.map Text.trimBlanks) (shown?_button vars todo)
  rw [Todo.line_eq]
  exact Parts.text?_node rfl (Parts.text?_node hclass (Parts.text?_node rfl
    (Parts.text?_node hbutton (Parts.text?_last rfl))))

/-- A button is what its template writes. -/
theorem text?_buttonParts : buttonParts.text? native [("z", .todo todo)] = some todo.button := by
  have hid : shown? [("z", .todo todo)] (code " z.id ") = some (toString todo.id) := by
    rw [code_button.1]
    rfl
  have hlabel : shown? [("z", .todo todo)] (code " z.label ") = some todo.label := by
    rw [code_button.2]
    rfl
  have hid := congrArg (Option.map id) hid
  have hlabel := congrArg (Option.map Text.escapeHtml) hlabel
  rw [Todo.button_eq]
  exact Parts.text?_node rfl (Parts.text?_node hid (Parts.text?_node rfl
    (Parts.text?_node hlabel (Parts.text?_last rfl))))

/-- The loop runs once for each thing to do. -/
theorem runs?_todos :
    (Parts.head? " for todo in &z.todos \x7b ").bind (native.runs? [("z", .list list)]) =
      some (list.todos.map fun todo => [("todo", .todo todo), ("z", .list list)]) := by
  rw [code_page.2.1]
  rfl

/-- The note is written if there is nothing to do. -/
theorem runs?_isEmpty :
    (Parts.head? " if z.todos.is_empty() \x7b ").bind (native.runs? [("z", .list list)]) =
      some (if list.todos.isEmpty then [[("z", .list list)]] else []) := by
  rw [code_page.2.2]
  rfl

/-- A page is what its template writes. -/
theorem text?_pageParts : pageParts.text? native [("z", .list list)] = some list.page := by
  have htitle : shown? [("z", .list list)] (code " z.title ") = some list.title := by
    rw [code_page.1]
    rfl
  have hescaped := congrArg (Option.map Text.escapeHtml) htitle
  have hlines : (list.todos.map fun todo => [("todo", Value.todo todo), ("z", .list list)]).mapM
      (lineParts.text? native) = some (list.todos.map Todo.line) := by
    simp only [List.mapM_map, Function.comp_def, text?_lineParts]
    exact List.mapM_pure
  have hnote : (if list.todos.isEmpty then [[("z", Value.list list)]] else []).mapM
      (Parts.text? native (.node (.literal "<p>Nothing to do</p>") .nil)) =
        some (if list.todos.isEmpty then ["<p>Nothing to do</p>"] else []) := by
    cases list.todos.isEmpty <;> rfl
  have hjoin : list.emptyNote =
      String.join (if list.todos.isEmpty then ["<p>Nothing to do</p>"] else []) := by
    rw [emptyNote]
    cases list.todos.isEmpty <;> rfl
  rw [page_eq, hjoin]
  exact Parts.text?_node rfl (Parts.text?_node hescaped (Parts.text?_node rfl
    (Parts.text?_block (runs?_todos list) hlines (Parts.text?_node rfl
      (Parts.text?_block (runs?_isEmpty list) hnote (Parts.text?_last rfl))))))

end

/-! ## functions -/

/-- The names of the functions. -/
theorem functionName?_eq :
    functionName? "button" = some "button" ∧ functionName? "todo_list" = some "todo_list" := by
  decide +kernel

/-- **The function generated for a button writes the button**, whatever its parameter is
declared to be. -/
theorem button_written : ∃ tokens,
    (∀ o : Options, o.delimiters = .standard →
      functionTokens "button" buttonTemplate o = .ok (functionAround "button" o tokens)) ∧
    ∀ (todo : Todo) (text : String),
      Writes native [("z", .todo todo)] tokens text ↔ text = todo.button := by
  obtain ⟨⟨hbuild, hcomplete⟩, -⟩ := read_parts
  obtain ⟨tokens, hfunction, hwrites⟩ :=
    Parts.function_writes hcomplete (by simp [buttonParts]) functionName?_eq.1 hbuild
  exact ⟨tokens, hfunction, fun todo => hwrites (text?_buttonParts todo)⟩

/-- **The function generated for a page writes the page.** It calls the function for a button
once for each thing to do. -/
theorem page_written : ∃ tokens,
    (∀ o : Options, o.delimiters = .standard →
      functionTokens "todo_list" nativeTemplate o = .ok (functionAround "todo_list" o tokens)) ∧
    ∀ (list : TodoList) (text : String),
      Writes native [("z", .list list)] tokens text ↔ text = list.page := by
  obtain ⟨-, hbuild, hcomplete⟩ := read_parts
  obtain ⟨tokens, hfunction, hwrites⟩ :=
    Parts.function_writes hcomplete (by simp [pageParts]) functionName?_eq.2 hbuild
  exact ⟨tokens, hfunction, fun list => hwrites (text?_pageParts list)⟩

end Stencil.Example.TodoList
