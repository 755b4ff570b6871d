import Stencil.Codegen.Grammar.Phrase
import Stencil.Template.Delimiters

/-!
# Stencil.Codegen.Options

The options of generated functions: the name and the type of the parameter that
holds the data, and the delimiters of the template. They are written as code,
each after a comma, `name: Type` or `start = ".."`, and the last of several
counts. A comma may stand at the end. What is left over in the brackets of a
type is a mistake that counts after all others.
-/

namespace Stencil.Codegen

/-- The options of generated functions. -/
structure Options where
  /-- The name of the parameter. -/
  parameter : String
  /-- The tokens of its type. -/
  type : List Token
  opening : Option String
  closing : Option String

namespace Options

/-- The options when nothing is given: the parameter is `z` and holds nothing. -/
def standard : Options := ⟨"z", [.opening .round, .closing .round], none, none⟩

instance : Inhabited Options := ⟨standard⟩

/-- The delimiters in effect. -/
def delimiters (o : Options) : Delimiters := .ofTexts (o.opening.getD "") (o.closing.getD "")

end Options

/-- What is wrong with the arguments of a request. -/
inductive ArgumentError where
  /-- They are not of the form that is asked for. -/
  | malformed
  /-- There is no option of that name. -/
  | unknownOption (name : String)
  deriving DecidableEq, Repr

/-- The message for an option that there is not; other mistakes have none of
their own. -/
def ArgumentError.message? : ArgumentError → Option String
  | malformed => none
  | unknownOption name =>
    some ("unknown option \x60" ++ name ++ "\x60, expected \x60start\x60 or \x60end\x60")

/-- The text that a literal stands for, if it is one of a text. -/
def literalText? (written : String) : Option String :=
  match written.toList with
  | '"' :: rest => (readCooked? .text rest).map fun (value, _) => String.ofList value
  | 'r' :: rest => (readRaw? .text rest).map fun (value, _) => String.ofList value
  | _ => none

namespace Options

/-- The options with a delimiter given by its name. -/
def setDelimiter (name value : String) (o : Options) : Except ArgumentError Options :=
  if name = "start" then .ok { o with opening := some value }
  else if name = "end" then .ok { o with closing := some value }
  else .error (.unknownOption name)

/-- The options `o` with those given by tokens. Nothing was left over in
brackets so far if `whole` holds. -/
def withTokens (whole : Bool) (o : Options) (ts : List Token) : Except ArgumentError Options :=
  match ts with
  | [] => if whole then .ok o else .error .malformed
  | .mark ',' _ :: [] => if whole then .ok o else .error .malformed
  | .mark ',' _ :: .word name :: .mark ':' _ :: rest =>
    if isName name then
      match Grammar.type? rest with
      | some type =>
        withTokens (whole && type.whole) { o with parameter := name, type := type.tokens }
          (rest.drop (rest.length - type.rest.length))
      | none => .error .malformed
    else .error .malformed
  | .mark ',' _ :: .word name :: .mark '=' _ :: .literal written :: rest =>
    if isName name then
      match literalText? written with
      | some value =>
        match o.setDelimiter name value with
        | .ok o => withTokens whole o rest
        | .error e => .error e
      | none => .error .malformed
    else .error .malformed
  | _ => .error .malformed
termination_by ts.length
decreasing_by all_goals (simp only [List.length_cons, List.length_drop]; omega)

/-- The options given by tokens. -/
def ofTokens (ts : List Token) : Except ArgumentError Options := withTokens true standard ts

/-- The options given by code. -/
def ofCode (code : String) : Except ArgumentError Options :=
  match tokens? code with
  | some ts => ofTokens ts
  | none => .error .malformed

end Options

end Stencil.Codegen
