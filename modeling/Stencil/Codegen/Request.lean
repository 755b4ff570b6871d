import Stencil.Codegen.Function
import Stencil.Files

/-!
# Stencil.Codegen.Request

Requests for generated functions. A request names a template given as text, the
file of a template, or a directory; of a directory every file with the extension
of templates gives a function, in the order in which the directory is listed.
Paths are seen from a base directory, and options follow what a request names.
-/

namespace Stencil.Codegen

/-- The extension of the files of a directory that are templates. -/
def templateExtension : String := "ztpl"

/-- Why a request gives nothing. -/
inductive RequestError where
  | argument (e : ArgumentError)
  | expansion (e : ExpansionError)
  deriving DecidableEq, Repr

/-- The function for a template given as text: the arguments are its name, its
text, and options. -/
def ofText (arguments : String) : Except RequestError (List Token) :=
  match tokens? arguments with
  | some (.literal name :: .mark ',' _ :: .literal source :: rest) =>
    match literalText? name, literalText? source, Options.ofTokens rest with
    | some name, some source, .ok o => (functionTokens name source o).mapError .expansion
    | _, _, .error e => .error (.argument e)
    | _, _, _ => .error (.argument .malformed)
  | _ => .error (.argument .malformed)

/-- A path and options given as arguments. -/
def pathArguments (arguments : String) : Except RequestError (String × Options) :=
  match tokens? arguments with
  | some (.literal path :: rest) =>
    match literalText? path, Options.ofTokens rest with
    | some path, .ok o => .ok (path, o)
    | none, _ => .error (.argument .malformed)
    | _, .error e => .error (.argument e)
  | _ => .error (.argument .malformed)

/-- The function for the template in the file at a path, and the tie to it. -/
def functionOfFile (files : Files) (path : String) (o : Options) :
    Except ExpansionError (List Token) :=
  match (files.read path).toOption.bind Text.ofUtf8? with
  | none => .error (.notText path)
  | some source =>
    (functionTokens ((Path.stem? path).getD "") source o).map (fileTokens path ++ ·)

/-- The function for the template in a file. -/
def ofFile (files : Files) (base arguments : String) : Except RequestError (List Token) := do
  let (name, o) ← pathArguments arguments
  let path := Path.join base name
  if files.isFile path then (functionOfFile files path o).mapError .expansion
  else .error (.expansion (.noFile path))

/-- The functions for the templates in a directory. -/
def ofDirectory (files : Files) (base arguments : String) :
    Except RequestError (List Token) := do
  let (name, o) ← pathArguments arguments
  let path := Path.join base name
  if files.isDirectory path then
    let templates := (files.list path).filter fun file =>
      Path.extension? file == some templateExtension
    let functions ← (templates.mapM (functionOfFile files · o)).mapError .expansion
    return functions.flatten
  else .error (.expansion (.noDirectory path))

end Stencil.Codegen
