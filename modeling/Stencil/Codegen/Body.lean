import Stencil.Codegen.StringLiteral
import Stencil.Template.Program

/-!
# Stencil.Codegen.Body

The body of the function that a template is compiled to: a block of Rust whose
value is the text that the template writes. The text is gathered in a variable,
the accumulator. Each node gives one line, or as many as its code has, and the
last line hands the text over. Code is copied as it stands.
-/

namespace Stencil.Codegen

/-- The name of the variable in which a body gathers its text. -/
def accumulator : String := "__z"

/-- The call of a function with a reference to a value. -/
def callWith (function value : String) : String := function ++ "(&" ++ value ++ ")"

/-- The code for the text of a value: escaped if `escape` holds, then
trimmed. -/
def valueText (expr : String) (escape : Bool) (trim : Trim) : String :=
  let text := callWith "::std::string::ToString::to_string" ("(" ++ expr ++ ")")
  let text := if escape then callWith "::ztpl::helpers::escape_html" text else text
  match trim with
  | .none => text
  | .lineEndings => callWith "::ztpl::helpers::trim_eol" text
  | .blanks => callWith "::ztpl::helpers::trim_whitespace" text

/-- The first lines of a body: the accumulator is made, from the text of the
first node if this node writes one. -/
def openingLines : Node → String
  | .literal text =>
    "let mut " ++ accumulator ++ " = ::std::string::String::from(" ++ literal text ++ ");\n"
  | .value expr escape trim =>
    "let mut " ++ accumulator ++ " = ::std::string::String::from(&*" ++
      valueText expr escape trim ++ ");\n"
  | .code text =>
    "let mut " ++ accumulator ++ " = ::std::string::String::new();\n" ++ text ++ "\n"

/-- The lines of any later node. -/
def nodeLines : Node → String
  | .literal text => accumulator ++ ".push_str(" ++ literal text ++ ");\n"
  | .value expr escape trim =>
    accumulator ++ ".push_str(&" ++ valueText expr escape trim ++ ");\n"
  | .code text => text ++ "\n"

/-- The body for a template. -/
def body : Program → String
  | [] => "let " ++ accumulator ++ " = ::std::string::String::new();\n" ++ accumulator
  | node :: rest =>
    openingLines node ++ String.join (rest.map nodeLines) ++ accumulator

end Stencil.Codegen
