import Stencil.Unicode.CaseMap
import Stencil.Unicode.Uppercase

/-!
# Stencil.Codegen.Name

Names of generated functions. They are made from the names of templates, in
small letters with underscores between the words.
-/

namespace Stencil.Codegen

open Unicode

/-- A character of a name in snake case; `inside` says that others come before
it. -/
def snakeChar (inside : Bool) (c : Char) : List Char :=
  if isUppercase c then (if inside then ['_'] else []) ++ lowerChar c
  else if c == '-' || c == '.' || c == ' ' then ['_']
  else [c]

/-- A name in snake case: each word that begins with a capital is set off by an
underscore, and hyphens, points and spaces are underscores. -/
def snakeCase (name : String) : String :=
  match name.toList with
  | [] => ""
  | c :: cs => String.ofList (snakeChar false c ++ cs.flatMap (snakeChar true))

/-- The words that Rust keeps for itself. None of them is the name of anything,
and neither is a single underscore. -/
def reservedWords : List String :=
  ["_", "abstract", "as", "async", "await", "become", "box", "break", "const", "continue",
    "crate", "do", "dyn", "else", "enum", "extern", "false", "final", "fn", "for", "if", "impl",
    "in", "let", "loop", "macro", "match", "mod", "move", "mut", "override", "priv", "pub", "ref",
    "return", "Self", "self", "static", "struct", "super", "trait", "true", "try", "type",
    "typeof", "unsafe", "unsized", "use", "virtual", "where", "while", "yield"]

end Stencil.Codegen
