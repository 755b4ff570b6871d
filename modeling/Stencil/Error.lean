import Stencil.Script.Cause
import Stencil.Text.Utf8

/-!
# Stencil.Error

The errors of compiling and of rendering. An opening delimiter that is never
closed is no error, since the rest of the template is text then. An error
inside a partial is handed on as it is.
-/

namespace Stencil

/-- Why a file cannot be read. -/
inductive ReadFault where
  | notFound
  | isDirectory
  | notDirectory
  /-- The path holds a character that no path may hold. -/
  | invalidPath
  | nameTooLong
  deriving DecidableEq, Repr

/-- What the system says about a file that cannot be read. -/
def ReadFault.message : ReadFault → String
  | notFound => "No such file or directory (os error 2)"
  | isDirectory => "Is a directory (os error 21)"
  | notDirectory => "Not a directory (os error 20)"
  | invalidPath => "file name contained an unexpected NUL byte"
  | nameTooLong => "File name too long (os error 36)"

/-- An error of compiling or of rendering. -/
inductive Error where
  /-- The octets of a template are no UTF-8. -/
  | notText
  /-- Code is malformed; `near` is the end of what stands before the place. -/
  | malformed (cause : Script.SyntaxCause) (near : String)
  | runtime (cause : Script.RuntimeCause)
  /-- The file of a template cannot be read. -/
  | unreadable (fault : ReadFault) (path : String)
  deriving DecidableEq, Repr

namespace Error

/-- The number of characters that an error shows of what stands before the
place of a mistake. -/
def contextLength : Nat := 32

/-- The error for a mistake found after `before`. -/
def malformedAfter (cause : Script.SyntaxCause) (before : List Char) : Error :=
  .malformed cause (Text.lastChars contextLength (String.ofList before))

/-- The message of an error. -/
def message : Error → String
  | notText => "template must be valid UTF-8 text"
  | malformed cause near => cause.message ++ " near \"" ++ near ++ "\""
  | runtime cause => "render failed: " ++ cause.message
  | unreadable fault path => "unable to read template " ++ path ++ ": " ++ fault.message

end Error

end Stencil
