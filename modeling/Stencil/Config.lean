import Stencil.Json.Document
import Stencil.Json.Read
import Stencil.Path
import Stencil.Template.Delimiters
import Stencil.Text.Quoted

/-!
# Stencil.Config

The options of compiling templates. Every option may be left out, and an empty
text asks for the default, so no configuration has empty delimiters.
-/

namespace Stencil

/-- The options as they are given. -/
structure Config where
  /-- The opening delimiter. -/
  opening : String
  /-- The closing delimiter. -/
  closing : String
  /-- The name of the data in templates. -/
  dataName : String
  /-- The directory of partials, if it is given. -/
  basePath : Option String
  /-- The extension of the files of partials. -/
  extension : String
  deriving DecidableEq, Repr

namespace Config

/-- The name of the data unless another is given. -/
def defaultDataName : String := "z"

/-- The extension of partials unless another is given. -/
def defaultExtension : String := "ztpl"

/-- The options when nothing is given. -/
def standard : Config := ⟨"", "", defaultDataName, none, defaultExtension⟩

instance : Inhabited Config := ⟨standard⟩

/-! ## options in effect -/

/-- The delimiters in effect. -/
def delimiters (c : Config) : Delimiters := .ofTexts c.opening c.closing

/-- The name of the data in effect. -/
def effectiveDataName (c : Config) : String := Delimiters.orElse c.dataName defaultDataName

/-- The extension in effect. -/
def effectiveExtension (c : Config) : String := Delimiters.orElse c.extension defaultExtension

/-- The directory in effect. Without one partials are looked for in the current
directory. -/
def directory (c : Config) : String := c.basePath.getD "."

/-- The path of the partial `name`. -/
def resolve (c : Config) (name : String) : String :=
  Path.join c.directory (name ++ "." ++ c.effectiveExtension)

/-! ## giving options -/

/-- The options that can be given. -/
inductive Setting where
  | opening | closing | dataName | basePath | extension
  deriving DecidableEq, Repr

namespace Setting

/-- The name of an option in JSON. -/
def name : Setting → String
  | opening => "start"
  | closing => "end"
  | dataName => "objName"
  | basePath => "basePath"
  | extension => "extension"

/-- All options, in the order in which an array gives them. -/
def all : List Setting := [opening, closing, dataName, basePath, extension]

/-- The option of a name. -/
def ofName? (name : String) : Option Setting := all.find? (·.name == name)

end Setting

/-- The configuration with an option given. -/
def set (setting : Setting) (value : String) (c : Config) : Config :=
  match setting with
  | .opening => { c with opening := value }
  | .closing => { c with closing := value }
  | .dataName => { c with dataName := value }
  | .basePath => { c with basePath := some value }
  | .extension => { c with extension := value }

/-! ## reading -/

/-- The configuration with the options of an object given, each by its name and
its text. Other names are ignored. An option without a text is refused, as is
one that is given twice, be it by this object or among `given`. -/
def setFields? (given : List Setting) (c : Config) :
    List (Option String × Option String) → Option Config
  | [] => some c
  | (none, _) :: _ => none
  | (some key, value) :: rest =>
    match Setting.ofName? key with
    | none => setFields? given c rest
    | some setting =>
      match value with
      | none => none
      | some text =>
        if setting ∈ given then none
        else setFields? (setting :: given) (c.set setting text) rest

/-- The configuration with the options of an array given, in the order of
`settings`. Items may be missing at the end; one without a text is refused, as
is one too many. -/
def setItems? (c : Config) : List Setting → List (Option String) → Option Config
  | _, [] => some c
  | [], _ :: _ => none
  | setting :: settings, value :: values =>
    match value with
    | none => none
    | some text => setItems? (c.set setting text) settings values

/-- The text that a JSON value is. -/
def textOf? : Json → Option String
  | .string s => some s
  | _ => none

/-- The text that a document is. -/
def documentText? : Json.Document → Option String
  | .string s => s
  | _ => none

/-- The configuration that a JSON value gives. -/
def ofJson? : Json → Option Config
  | .object fields =>
    setFields? [] standard (fields.map fun (key, value) => (some key, textOf? value))
  | .array items => setItems? standard Setting.all (items.map textOf?)
  | _ => none

/-- The configuration that a JSON text gives. -/
def read? (s : String) : Option Config :=
  match Json.Document.read? s with
  | some (.object fields) =>
    setFields? [] standard (fields.map fun (key, value) => (key, documentText? value))
  | some (.array items) => setItems? standard Setting.all (items.map documentText?)
  | _ => none

/-! ## showing -/

/-- A configuration as it is shown to a developer, with the options as they are
given and with whether there is a cache. -/
def describe (c : Config) (cached : Bool) : String :=
  String.join
    ["Config \x7b start: ", Text.quoteText c.opening, ", end: ", Text.quoteText c.closing,
     ", obj_name: ", Text.quoteText c.dataName,
     ", base_path: ", Text.quoteText c.directory,
     ", extension: ", Text.quoteText c.extension,
     ", cache: ", toString cached, ", .. \x7d"]

end Config

end Stencil
