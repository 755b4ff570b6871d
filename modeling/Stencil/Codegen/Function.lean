import Stencil.Codegen.Body
import Stencil.Codegen.Options
import Stencil.Path

/-!
# Stencil.Codegen.Function

The function that a template is compiled to. It takes a reference to its data
and returns the text that the template writes; a template without markers gives
a function that returns its text. The name of the function is that of the
template in snake case.
-/

namespace Stencil.Codegen

/-- Why no functions are generated. -/
inductive ExpansionError where
  /-- A template's name makes no name of a function. -/
  | badName (name : String)
  /-- The code of a template has no tokens or brackets that do not match. -/
  | badCode (name : String)
  | noFile (path : String)
  | noDirectory (path : String)
  /-- The content of a file is no UTF-8. -/
  | notText (path : String)
  deriving DecidableEq, Repr

/-- The message of an error. -/
def ExpansionError.message : ExpansionError → String
  | badName name => "\x60" ++ name ++ "\x60 is not a valid function name"
  | badCode name => "template \x60" ++ name ++ "\x60 does not generate valid Rust"
  | noFile path => "File not found: " ++ Text.quoteText path
  | noDirectory path => "Directory not found: " ++ Text.quoteText path
  | notText path =>
    "unable to read " ++ Text.quoteText path ++ ": stream did not contain valid UTF-8"

/-- The name of the function for a template. -/
def functionName? (name : String) : Option String :=
  match tokens? (snakeCase name) with
  | some [.word word] => if isName word then some word else none
  | _ => none

/-- The tokens of a fixed piece of code. -/
def code (text : String) : List Token := (tokens? text).getD []

/-- A text as the token of a literal. -/
def textToken (s : String) : Token := .literal (shownLiteral s)

/-- Tokens in brackets. -/
def within (b : Bracket) (ts : List Token) : List Token := .opening b :: ts ++ [.closing b]

/-- The tokens of the body for a template. -/
def bodyTokens? (delimiters : Delimiters) (source : String) : Option (List Token) :=
  match Program.build? delimiters source with
  | some program => tokens? (body program)
  | none => some (code "::std::string::String::from" ++ within .round [textToken source])

/-- The tokens of the function for the template `name`. -/
def functionTokens (name source : String) (o : Options) : Except ExpansionError (List Token) :=
  match functionName? name with
  | none => .error (.badName name)
  | some word =>
    match bodyTokens? o.delimiters source with
    | none => .error (.badCode name)
    | some tokens =>
      .ok <| code "#[allow(unused_mut, unused_variables)] pub fn" ++ [.word word] ++
        within .round (.word o.parameter :: code ":&" ++ o.type) ++
        code "-> ::std::string::String" ++ within .curly tokens

/-- The tokens that tie generated code to the file at a path, so that it is
generated again when the file changes. -/
def fileTokens (path : String) : List Token :=
  code "const _: &[u8] = include_bytes!" ++ within .round [textToken path] ++ code ";"

end Stencil.Codegen
