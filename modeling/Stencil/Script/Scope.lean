import Stencil.Json.Basic

/-!
# Stencil.Script.Scope

The variables of a running script. A scope holds the variables of one block;
scopes are stacked, the innermost in front, and a name means the variable of
the innermost scope that has it.
-/

namespace Stencil.Script

/-- The variables of one block and their values, each name once. -/
abbrev Scope := List (String × Json)

/-- A scope with `name` holding `value`, a variable of that name being given a
new value. -/
def Scope.set (name : String) (value : Json) : Scope → Scope
  | [] => [(name, value)]
  | (x, v) :: rest =>
    if x = name then (x, value) :: rest else (x, v) :: Scope.set name value rest

/-- Scopes, the innermost in front. -/
abbrev Scopes := List Scope

namespace Scopes

/-- The value of a variable, if one of the scopes has it. -/
def find? (name : String) (scopes : Scopes) : Option Json := scopes.findSome? (·.lookup name)

/-- Adds a variable to the innermost scope. -/
def declare (name : String) (value : Json) : Scopes → Scopes
  | [] => []
  | scope :: rest => scope.set name value :: rest

/-- Changes the variable of the innermost scope that has it; nothing if none
has. -/
def update? (name : String) (change : Json → Json) : Scopes → Option Scopes
  | [] => none
  | scope :: rest =>
    match scope.lookup name with
    | some value => some (scope.set name (change value) :: rest)
    | none => (update? name change rest).map (scope :: ·)

end Scopes

end Stencil.Script
