import Stencil.Text.Utf8

/-!
# Stencil.Path

Paths as texts with slashes between their parts. Joining is an operation on the
texts: nothing is normalised, and a path that begins with a slash stands for
itself wherever it is joined to.
-/

namespace Stencil.Path

/-- The path `name` seen from the directory `base`. -/
def join (base name : String) : String :=
  if name.toList.head? = some '/' then name
  else if base = "" ∨ base.toList.getLast? = some '/' then base ++ name
  else base ++ "/" ++ name

/-- The parts between the slashes of a run of characters. -/
def splitSlashes : List Char → List (List Char)
  | [] => [[]]
  | c :: cs =>
    if c = '/' then [] :: splitSlashes cs
    else
      match splitSlashes cs with
      | [] => [[c]]
      | part :: parts => (c :: part) :: parts

/-- The parts of a path. -/
def parts (path : String) : List String := (splitSlashes path.toList).map String.ofList

/-- The last part of a path that is not empty and not a single point. A path
that goes up at its end has no name. -/
def fileName? (path : String) : Option String :=
  match ((parts path).filter fun part => part ≠ "" ∧ part ≠ ".").getLast? with
  | some ".." => none
  | last => last

/-- A file name cut at its last point: what stands before and after it. A point
in front of the name does not count. -/
def splitName (name : String) : String × Option String :=
  let backwards := name.toList.reverse
  let extension := (backwards.takeWhile (· != '.')).reverse
  let stem := ((backwards.dropWhile (· != '.')).drop 1).reverse
  if stem.isEmpty then (name, none) else (String.ofList stem, some (String.ofList extension))

/-- The name of a file without its extension. -/
def stem? (path : String) : Option String := (fileName? path).map fun name => (splitName name).1

/-- The extension of a file name. -/
def extension? (path : String) : Option String :=
  (fileName? path).bind fun name => (splitName name).2

end Stencil.Path
