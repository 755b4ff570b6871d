import Stencil.Include
import Stencil.Script.Engine
import Stencil.Text.Html
import Stencil.Text.Trim

/-!
# Stencil.Example.TodoList

An example: a list of things to do as a page. The page is made twice, once by
functions such as the ones that templates are compiled to, and once by a
template that runs, with a partial for the button of each item.
-/

namespace Stencil.Example

open Text

/-- A thing to do. -/
structure Todo where
  id : UInt32
  label : String
  done : Bool
  deriving DecidableEq, Repr

/-- Things to do, under a title. -/
structure TodoList where
  title : String
  todos : List Todo
  deriving DecidableEq, Repr

/-! ## functions -/

/-- The button of a thing to do. -/
def Todo.button (todo : Todo) : String :=
  "<button id=\"todo-" ++ toString todo.id ++ "\">" ++ escapeHtml todo.label ++ "</button>\n"

/-- The line of a list for a thing to do. -/
def Todo.line (todo : Todo) : String :=
  "\n  <li class=\"" ++ (if todo.done then "done" else "open") ++ "\">" ++
    trimBlanks todo.button ++ "</li>\n"

/-- The pieces of a button. -/
theorem Todo.button_eq (todo : Todo) : todo.button =
    "<button id=\"todo-" ++ (toString todo.id ++ ("\">" ++
      (escapeHtml todo.label ++ "</button>\n"))) := by
  delta Todo.button
  simp only [String.append_assoc]

/-- The pieces of a line. -/
theorem Todo.line_eq (todo : Todo) : todo.line =
    "\n  <li class=\"" ++ ((if todo.done then "done" else "open") ++ ("\">" ++
      (trimBlanks todo.button ++ "</li>\n"))) := by
  delta Todo.line
  simp only [String.append_assoc]

namespace TodoList

/-- What a list shows if it is empty. -/
def emptyNote (list : TodoList) : String :=
  if list.todos.isEmpty then "<p>Nothing to do</p>" else ""

/-- The list as a page. -/
def page (list : TodoList) : String :=
  "<h1>" ++ escapeHtml list.title ++ "</h1>\n<ul>\n" ++ String.join (list.todos.map Todo.line) ++
    "\n</ul>\n" ++ list.emptyNote ++ "\n"

/-- The pieces of a page. -/
theorem page_eq (list : TodoList) : list.page =
    "<h1>" ++ (escapeHtml list.title ++ ("</h1>\n<ul>\n" ++
      (String.join (list.todos.map Todo.line) ++ ("\n</ul>\n" ++ (list.emptyNote ++ "\n"))))) := by
  delta page
  simp only [String.append_assoc]

/-- How much of the list is done. -/
def summary (list : TodoList) : String :=
  toString (list.todos.countP Todo.done) ++ " of " ++ toString list.todos.length ++ " done\n"

/-- A greeting by first and last name, as they are. -/
def hello (first last : String) : String :=
  "\n        <p>Hello " ++ first ++ " " ++ last ++ "</p>\n    "

/-! ## templates -/

/-- The template of a page. -/
def pageTemplate : String := String.join [
  "<h1>[[= z.title ]]</h1>\n",
  "<ul>\n",
  "[[ for (const todo of z.todos) \x7b ]]\n",
  "  <li class=\"[[- todo.done ? 'done' : 'open' ]]\">[[- include('button', todo) >>]]</li>\n",
  "[[ \x7d ]]\n",
  "</ul>\n",
  "[[ if (z.todos.length === 0) \x7b ]]<p>Nothing to do</p>[[ \x7d ]]\n"]

/-- The template of a button. -/
def buttonTemplate : String := "<button id=\"todo-[[- z.id ]]\">[[= z.label ]]</button>\n"

/-- The template that a function for a page is generated from. Its code is put into the function. -/
def nativeTemplate : String := String.join [
  "<h1>[[= z.title ]]</h1>\n",
  "<ul>\n",
  "[[ for todo in &z.todos \x7b ]]\n",
  "  <li class=\"[[- if todo.done \x7b \"done\" \x7d else \x7b \"open\" \x7d ]]\">",
  "[[- crate::templates::button(todo) >>]]</li>\n",
  "[[ \x7d ]]\n",
  "</ul>\n",
  "[[ if z.todos.is_empty() \x7b ]]<p>Nothing to do</p>[[ \x7d ]]\n"]

/-- The directory of the templates. -/
def directory : String := "templates"

/-- The files of the templates. -/
def files : Files :=
  .ofList directory
    [(["button.ztpl"], .file (utf8 buttonTemplate)), (["page.ztpl"], .file (utf8 pageTemplate))]

/-- A thing to do as data of a template. -/
def todoData (todo : Todo) : Json :=
  .ofFields
    [("id", .int todo.id.toNat), ("label", .string todo.label), ("done", .bool todo.done)]

/-- A list as data of a template. -/
def data (list : TodoList) : Json :=
  .ofFields
    [("title", .string list.title), ("todos", .array (list.todos.map todoData))]

/-- The compiler of the templates. It uses a cache. -/
def compiler : Compiler := ⟨Config.standard.set .basePath directory, Script.engine, true⟩

/-- Renders the template of a page with an empty cache. The cache afterwards
holds the partials that were used. -/
def renderPage (list : TodoList) : Except Error (Rendering.Outcome String × Option Cache) := do
  let r ← compiler.compile pageTemplate
  return r.render files 2 list.data (some (.memory .empty))

end TodoList

end Stencil.Example
