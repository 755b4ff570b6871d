import Stencil.Example.TodoList
import Stencil.Proofs.Number.Integers
import Stencil.Proofs.Script.Prepared
import Stencil.Proofs.Script.Writes
import Stencil.Proofs.Text.Utf8

/-!
# Stencil.Proofs.Example.Agreement

The two ways to make the page of a list of things to do give the same page. The template
that runs is taken apart into its script, and the script is followed statement by
statement with the rules for what is written. A turn of its loop asks for the button of an
item. The first turn finds the cache empty and leaves the compiled button in it, where the
others find it.
-/

namespace Stencil.Example.TodoList

open Rendering Script Script.Parse Text

/-! ## the scripts of the templates -/

/-- The parts of the template of a button. -/
def buttonProgram : Program := [
  .literal "<button id=\"todo-", .value " z.id " false .none, .literal "\">",
  .value " z.label " true .none, .literal "</button>\n"]

/-- The script of the template of a button. -/
def buttonScript : Tree where
  body := [.emit 0, .emit 1, .emit 2, .emit 3, .emit 4]
  outputs := [
    .text "<button id=\"todo-", .value (.member (.ident "z") "id") false .none, .text "\">",
    .value (.member (.ident "z") "label") true .none, .text "</button>\n"]

/-- The parts of the template of a page. -/
def pageProgram : Program := [
  .literal "<h1>", .value " z.title " true .none, .literal "</h1>\n<ul>\n",
  .code " for (const todo of z.todos) \x7b ",
  .literal "\n  <li class=\"", .value " todo.done ? 'done' : 'open' " false .none,
  .literal "\">", .value " include('button', todo) " false .blanks, .literal "</li>\n",
  .code " \x7d ", .literal "\n</ul>\n",
  .code " if (z.todos.length === 0) \x7b ", .literal "<p>Nothing to do</p>", .code " \x7d ",
  .literal "\n"]

/-- What the class of an item is taken from. -/
def classExpr : Expr :=
  .conditional (.member (.ident "todo") "done") (.literal (.string "done"))
    (.literal (.string "open"))

/-- The inclusion of a button. -/
def buttonExpr : Expr := .call (.ident "include") [.literal (.string "button"), .ident "todo"]

/-- The condition of the note that there is nothing to do. -/
def emptyExpr : Expr :=
  .binary .eq (.member (.member (.ident "z") "todos") "length") (.literal (.int 0))

/-- The statement for an item. -/
def lineStmt : Stmt := .block [.emit 3, .emit 4, .emit 5, .emit 6, .emit 7]

/-- The script of the template of a page. -/
def pageScript : Tree where
  body := [
    .emit 0, .emit 1, .emit 2, .forOf "todo" (.member (.ident "z") "todos") lineStmt,
    .emit 8, .branch emptyExpr (.block [.emit 9]) none, .emit 10]
  outputs := [
    .text "<h1>", .value (.member (.ident "z") "title") true .none, .text "</h1>\n<ul>\n",
    .text "\n  <li class=\"", .value classExpr false .none, .text "\">",
    .value buttonExpr false .blanks, .text "</li>\n", .text "\n</ul>\n",
    .text "<p>Nothing to do</p>", .text "\n"]

/-- The templates are read as these parts. -/
theorem build?_eq :
    Program.build? compiler.config.delimiters buttonTemplate = some buttonProgram ∧
      Program.build? compiler.config.delimiters pageTemplate = some pageProgram := by
  decide +kernel

/-- The script of the template of a button is `buttonScript`. -/
theorem ofProgram_button : ofProgram buttonProgram = .ok buttonScript := by
  have hid : parseValue " z.id " = .ok (.member (.ident "z") "id") :=
    parseValue_of_print rfl (by decide +kernel)
  have hlabel : parseValue " z.label " = .ok (.member (.ident "z") "label") :=
    parseValue_of_print rfl (by decide +kernel)
  exact ofProgram_of_print rfl rfl (by decide +kernel)
    (.cons (.text _) (.cons (.value _ _ hid) (.cons (.text _) (.cons (.value _ _ hlabel)
      (.cons (.text _) .nil)))))

/-- The script of the template of a page is `pageScript`. -/
theorem ofProgram_page : ofProgram pageProgram = .ok pageScript := by
  have htitle : parseValue " z.title " = .ok (.member (.ident "z") "title") :=
    parseValue_of_print rfl (by decide +kernel)
  have hclass : parseValue " todo.done ? 'done' : 'open' " = .ok classExpr :=
    parseValue_of_print rfl (by decide +kernel)
  have hbutton : parseValue " include('button', todo) " = .ok buttonExpr :=
    parseValue_of_print rfl (by decide +kernel)
  exact ofProgram_of_print rfl rfl (by decide +kernel)
    (.cons (.text _) (.cons (.value _ _ htitle) (.cons (.text _) (.cons (.text _)
      (.cons (.value _ _ hclass) (.cons (.text _) (.cons (.value _ _ hbutton) (.cons (.text _)
        (.cons (.text _) (.cons (.text _) (.cons (.text _) .nil)))))))))))

/-- The template of a button ready to run. -/
def buttonRenderer : Renderer := .program (buttonScript.run "z") compiler

/-- So the template of a button is compiled to run it. -/
theorem compile_button : compiler.compile buttonTemplate = .ok buttonRenderer :=
  Compiler.compile_of_ofProgram rfl build?_eq.1 ofProgram_button

/-- So is the template of a page. -/
theorem compile_page :
    compiler.compile pageTemplate = .ok (.program (pageScript.run "z") compiler) :=
  Compiler.compile_of_ofProgram rfl build?_eq.2 ofProgram_page

/-- Where the template of a button is, and what is read there. -/
theorem read_button :
    compiler.resolve "button" = "templates/button.ztpl" ∧
      files.read (compiler.resolve "button") = .ok (utf8 buttonTemplate) := by
  decide +kernel

/-- The file of the template of a button is compiled to the same renderer. -/
theorem compileFile_button :
    compiler.compileFile files (compiler.resolve "button") = .ok buttonRenderer := by
  rw [Compiler.compileFile, read_button.2]
  dsimp only
  rw [Compiler.compileOctets, ofUtf8?_utf8]
  exact compile_button

/-! ## the data -/

/-- The fields of a thing to do. -/
def todoFields (todo : Todo) : List (String × Json) :=
  [("done", .bool todo.done), ("id", .int todo.id.toNat), ("label", .string todo.label)]

/-- The fields of a list. -/
def listFields (list : TodoList) : List (String × Json) :=
  [("title", .string list.title), ("todos", .array (list.todos.map todoData))]

/-- The data of a thing to do has its fields in the order of their keys. -/
theorem todoData_eq (todo : Todo) : todoData todo = .object (todoFields todo) := by
  rfl

/-- So has the data of a list. -/
theorem data_eq (list : TodoList) : list.data = .object (listFields list) := by
  rfl

/-- An identifier is written with its digits. -/
theorem display_id (n : UInt32) : display (.int n.toNat) = toString n := by
  have hlt : n.toNat < 2 ^ 32 := n.toNat_lt
  have hle : (n.toNat : Int) ≤ maxInt64 := by
    have hmax : maxInt64 = 9223372036854775807 := by decide
    omega
  rw [Json.int, display, if_pos hle]
  rfl

section
variable {σ : Type} {reply : String → Json → σ → Outcome String × σ} {s s' : σ}

/-! ## the templates -/

/-- The template of a button writes the button, and asks for nothing. -/
theorem gives_button (todo : Todo) :
    Gives reply s (buttonScript.run "z" (todoData todo)) todo.button s := by
  have hfield : ∀ key, Gives reply s (eval ⟨"z", todoData todo⟩ [[]] (.member (.ident "z") key))
      (Json.field key (todoFields todo)) s := by
    intro key
    rw [todoData_eq]
    exact gives_field key (gives_data rfl)
  have hid : Writes reply [[]] s (exec buttonScript.outputs ⟨"z", todoData todo⟩ (.emit 1))
      (toString todo.id) s := by
    have htext : valueText false .none (.int todo.id.toNat) = toString todo.id := by
      rw [valueText, if_neg Bool.false_ne_true, applyTrim, display_id]
    have hvalue : Json.field "id" (todoFields todo) = .int todo.id.toNat := rfl
    have hwrites : Writes reply [[]] s (exec buttonScript.outputs ⟨"z", todoData todo⟩ (.emit 1))
        (valueText false .none (Json.field "id" (todoFields todo))) s :=
      writes_emit rfl (gives_value (hfield "id") _ _)
    rw [hvalue, htext] at hwrites
    exact hwrites
  have hlabel : Writes reply [[]] s (exec buttonScript.outputs ⟨"z", todoData todo⟩ (.emit 3))
      (escapeHtml todo.label) s := by
    have htext : valueText true .none (.string todo.label) = escapeHtml todo.label := by
      rw [valueText, if_pos rfl, applyTrim, display]
    have hvalue : Json.field "label" (todoFields todo) = .string todo.label := rfl
    have hwrites : Writes reply [[]] s (exec buttonScript.outputs ⟨"z", todoData todo⟩ (.emit 3))
        (valueText true .none (Json.field "label" (todoFields todo))) s :=
      writes_emit rfl (gives_value (hfield "label") _ _)
    rw [hvalue, htext] at hwrites
    exact hwrites
  have hall := writes_cons (writes_text 0 rfl) (writes_cons hid
    (writes_cons (writes_text 2 rfl) (writes_cons hlabel
      (writes_single (writes_text 4 rfl)))))
  rw [Todo.button_eq]
  exact gives_run hall

/-- A turn of the loop of a page writes the line of an item, if the request for its button
is answered with it. -/
theorem writes_line (todo : Todo) (data : Json)
    (hreply : reply "button" (todoData todo) s = (.done todo.button, s')) :
    Writes reply [[]] s
      (inScope [("todo", todoData todo)] (exec pageScript.outputs ⟨"z", data⟩ lineStmt))
      todo.line s' := by
  let inner : Scopes := [[], [("todo", todoData todo)], []]
  have htodo : ∀ s, Gives reply s (eval ⟨"z", data⟩ inner (.ident "todo")) (todoData todo) s :=
    fun s => gives_variable rfl
  have hclass : Writes reply inner s (exec pageScript.outputs ⟨"z", data⟩ (.emit 4))
      (if todo.done then "done" else "open") s := by
    have hdone : Gives reply s (eval ⟨"z", data⟩ inner (.member (.ident "todo") "done"))
        (.bool todo.done) s := gives_field "done" (htodo s)
    have hvalue : Gives reply s (eval ⟨"z", data⟩ inner classExpr)
        (.string (if todo.done then "done" else "open")) s := by
      refine gives_conditional hdone ?_
      cases todo.done <;> exact gives_literal _
    exact writes_emit rfl (gives_value hvalue _ _)
  have hbutton : Writes reply inner s (exec pageScript.outputs ⟨"z", data⟩ (.emit 6))
      (trimBlanks todo.button) s' := by
    have hname : display (.string "button") = "button" := by rw [display]
    rw [← hname] at hreply
    exact writes_emit rfl (gives_value (gives_include rfl (gives_literal _) (htodo s) hreply) _ _)
  have hall := writes_cons (writes_text 3 rfl) (writes_cons hclass
    (writes_cons (writes_text 5 rfl) (writes_cons hbutton
      (writes_single (writes_text 7 rfl)))))
  rw [Todo.line_eq]
  exact writes_inScope (writes_block hall)

/-- A page notes if there is nothing to do. -/
theorem writes_note (list : TodoList)
    (htodos : Gives reply s (eval ⟨"z", list.data⟩ [[]] (.member (.ident "z") "todos"))
      (.array (list.todos.map todoData)) s) :
    Writes reply [[]] s
      (exec pageScript.outputs ⟨"z", list.data⟩ (.branch emptyExpr (.block [.emit 9]) none))
      list.emptyNote s := by
  have hlength : property (.array (list.todos.map todoData)) (.string "length") =
      .ok (.int list.todos.length) := by
    rw [property, element, isLengthKey, if_pos (by rfl), List.length_map]
  have hempty : Gives reply s (eval ⟨"z", list.data⟩ [[]] emptyExpr)
      (.bool list.todos.isEmpty) s := by
    have hequals : equals (.int list.todos.length) (.int 0) = list.todos.isEmpty := by
      rw [equals_zero]
      cases list.todos with
      | nil => rfl
      | cons todo todos =>
        simp only [List.length_cons, List.isEmpty_cons, decide_eq_false_iff_not]
        omega
    rw [← hequals]
    exact gives_binary (gives_member htodos hlength) rfl (gives_literal _)
  have hnothing : Writes reply [[], []] s
      (exec pageScript.outputs ⟨"z", list.data⟩ (.block [.emit 9])) "<p>Nothing to do</p>" s :=
    writes_block (writes_single (writes_text 9 rfl))
  exact writes_branch hempty fun _ => hnothing

/-- The template of a page writes the page, if the requests for the buttons are answered
with them. A request finds a state with the property `I` and leaves the state `after`. -/
theorem gives_page (list : TodoList) {I : σ → Prop} {after : σ} (hafter : I after) (hs : I s)
    (hreply : ∀ todo ∈ list.todos, ∀ s, I s →
      reply "button" (todoData todo) s = (.done todo.button, after)) :
    Gives reply s (pageScript.run "z" list.data) list.page
      (if list.todos.isEmpty then s else after) := by
  have hfield : ∀ key s, Gives reply s (eval ⟨"z", list.data⟩ [[]] (.member (.ident "z") key))
      (Json.field key (listFields list)) s := by
    intro key s
    rw [data_eq]
    exact gives_field key (gives_data rfl)
  have htitle : Writes reply [[]] s (exec pageScript.outputs ⟨"z", list.data⟩ (.emit 1))
      (escapeHtml list.title) s :=
    writes_emit rfl (gives_value (hfield "title" s) _ _)
  have hlines := writes_forOf (hfield "todos" s) (writes_turns hafter list.todos
    (fun todo htodo s hI => writes_line todo list.data (hreply todo htodo s hI)) hs)
  generalize (if list.todos.isEmpty then s else after) = last at hlines ⊢
  have hnote := writes_note list (hfield "todos" last)
  have hall := writes_cons (writes_text 0 rfl) (writes_cons htitle
    (writes_cons (writes_text 2 rfl) (writes_cons hlines
      (writes_cons (writes_text 8 rfl) (writes_cons hnote
        (writes_single (writes_text 10 rfl)))))))
  rw [page_eq]
  exact gives_run hall

end

/-! ## the cache -/

/-- The cache after a button was asked for. -/
def withButton : MemoryCache := ⟨[("button", "templates/button.ztpl", buttonRenderer)]⟩

/-- Whether a cache holds nothing or the button only. -/
def AtMostButton (cache : Option Cache) : Prop :=
  cache = some (.memory .empty) ∨ cache = some (.memory withButton)

/-- The button is found or compiled, and it is in the cache afterwards. -/
theorem fetch_button {cache : Option Cache} (h : AtMostButton cache) :
    compiler.fetch files "button" cache = (.ok buttonRenderer, some (.memory withButton)) := by
  rcases h with rfl | rfl
  · have hmiss : compiler.fetch files "button" (some (Cache.memory .empty)) = _ :=
      Compiler.fetch_of_miss rfl rfl
    rw [hmiss, compileFile_button, read_button.1]
    rfl
  · exact Compiler.fetch_of_hit rfl rfl

/-- An inclusion of the button gives the button of its data. -/
theorem includePartial_button (depth : Nat) (todo : Todo) {cache : Option Cache}
    (h : AtMostButton cache) :
    includePartial files (depth + 1) compiler "button" (todoData todo) cache =
      (.done todo.button, some (.memory withButton)) := by
  have hbutton : Gives (includePartial files depth compiler) (some (Cache.memory withButton))
      (buttonScript.run "z" (todoData todo)) todo.button (some (Cache.memory withButton)) :=
    gives_button todo
  rw [includePartial, fetch_button h]
  exact hbutton

/-- **The template and the functions make the same page.** Rendering the template of a
page with an empty cache succeeds for every list and gives the page of the list. The cache
holds the button afterwards, with the path of its file, if there is something to do, and
nothing otherwise. -/
theorem renderPage_eq_page : ∃ button, compiler.compile buttonTemplate = .ok button ∧
    ∀ list : TodoList, list.renderPage = .ok (.done list.page, some (.memory
      ⟨if list.todos.isEmpty then [] else [("button", "templates/button.ztpl", button)]⟩)) := by
  refine ⟨buttonRenderer, compile_button, fun list => ?_⟩
  have hpage := gives_page list (I := AtMostButton) (.inr rfl) (.inl rfl)
    fun todo _ cache hcache => includePartial_button 1 todo hcache
  have hcache : (if list.todos.isEmpty then some (Cache.memory .empty)
      else some (.memory withButton)) = some (.memory ⟨if list.todos.isEmpty then []
        else [("button", "templates/button.ztpl", buttonRenderer)]⟩) := by
    cases list.todos.isEmpty <;> rfl
  rw [hcache] at hpage
  rw [renderPage, compile_page, Except.ok_bind]
  exact congrArg Except.ok hpage

end Stencil.Example.TodoList
