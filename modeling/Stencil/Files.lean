import Stencil.Error
import Stencil.Path
import Stencil.Text.Find

/-!
# Stencil.Files

A tree of files under one directory, `root`. Every file and every directory is
an entry under the list of its path's parts, seen from the root; the parents of
an entry are entries themselves. Nothing is known of what lies outside the root,
so a path that leads there leads to no file.

A path is followed part by part: every part but the last has to be a directory,
empty parts and single points stay where they are, and two points go up.
-/

namespace Stencil

/-- A file with its content, or a directory. -/
inductive FileNode where
  | file (octets : List UInt8)
  | directory
  deriving DecidableEq, Repr

/-- A tree of files. -/
structure Files where
  root : String
  entries : List (List String × FileNode)

namespace Files

/-- The greatest number of octets of a part of a path. -/
def maxPart : Nat := 255

/-- The greatest number of octets of a path. -/
def maxPath : Nat := 4095

/-- The entry under a list of parts. The root is a directory. -/
def entry? (files : Files) (place : List String) : Option FileNode :=
  if place.isEmpty then some .directory else files.entries.lookup place

/-- Follows the parts of a path from the entry under `place`. -/
def follow (files : Files) (place : List String) : List String → Except ReadFault (List String)
  | [] => .ok place
  | part :: rest =>
    if files.entry? place ≠ some .directory then .error .notDirectory
    else if part = "" ∨ part = "." then follow files place rest
    else if part = ".." then
      if place.isEmpty then .error .notFound else follow files place.dropLast rest
    else if maxPart < (Text.utf8 part).length then .error .nameTooLong
    else if (files.entry? (place ++ [part])).isNone then .error .notFound
    else follow files (place ++ [part]) rest

/-- What a path says about the tree: the parts after the root, if it lies under
the root. -/
def under? (files : Files) (path : String) : Option (List String) :=
  (Text.afterPrefix? (files.root.toList) path.toList).bind fun rest =>
    match rest with
    | [] => some []
    | '/' :: cs => some (Path.parts (String.ofList cs))
    | _ => none

/-- The entry that a path leads to. -/
def locate (files : Files) (path : String) : Except ReadFault (List String) :=
  if path.toList.contains '\x00' then .error .invalidPath
  else if maxPath < (Text.utf8 path).length then .error .nameTooLong
  else
    match files.under? path with
    | none =>
      if (Path.parts path).any fun part => maxPart < (Text.utf8 part).length
      then .error .nameTooLong else .error .notFound
    | some parts => files.follow [] parts

/-- The content of the file that a path leads to. -/
def read (files : Files) (path : String) : Except ReadFault (List UInt8) :=
  match files.locate path with
  | .error fault => .error fault
  | .ok place =>
    match files.entry? place with
    | some (.file octets) => .ok octets
    | some .directory => .error .isDirectory
    | none => .error .notFound

/-- Whether a path leads to a file. -/
def isFile (files : Files) (path : String) : Bool :=
  match files.locate path with
  | .ok place => (files.entry? place).any (· != .directory)
  | .error _ => false

/-- Whether a path leads to a directory. -/
def isDirectory (files : Files) (path : String) : Bool :=
  match files.locate path with
  | .ok place => files.entry? place == some .directory
  | .error _ => false

/-! ## changes -/

/-- An entry under `place`, in place of one that is there. -/
def setEntry (place : List String) (node : FileNode) (files : Files) : Files :=
  { files with entries := (place, node) :: files.entries.filter (·.1 ≠ place) }

/-- The directories above `place`, made if they are missing. -/
def makeParents (place : List String) (files : Files) : Files :=
  (List.range (place.length - 1)).foldl (fun files i =>
    let above := place.take (i + 1)
    if (files.entry? above).isSome then files else files.setEntry above .directory) files

/-- Writes a file or makes a directory. The path is given by its parts, which
are names. -/
def write (place : List String) (node : FileNode) (files : Files) : Files :=
  (files.makeParents place).setEntry place node

/-- Removes a file. -/
def remove (place : List String) (files : Files) : Files :=
  { files with entries := files.entries.filter (·.1 ≠ place) }

/-- The tree with the given entries under `root`. -/
def ofList (root : String) (entries : List (List String × FileNode)) : Files :=
  entries.foldl (fun files (place, node) => files.write place node) ⟨root, []⟩

/-! ## listing -/

/-- The names in a directory, in increasing order. -/
def names (files : Files) (place : List String) : List String :=
  let inside := files.entries.filterMap fun (path, _) =>
    if path.dropLast = place then path.getLast? else none
  inside.mergeSort fun a b => a ≤ b

/-- The paths of all files under a directory whose path is `path`: names in
increasing order, the content of a directory in the place of its name. `depth`
bounds the nesting of directories. -/
def filesBelow (files : Files) : Nat → List String → String → List String
  | 0, _, _ => []
  | depth + 1, place, path =>
    (files.names place).flatMap fun name =>
      let inner := Path.join path name
      match files.entry? (place ++ [name]) with
      | some .directory => filesBelow files depth (place ++ [name]) inner
      | some (.file _) => [inner]
      | none => []

/-- The paths of all files under a directory. -/
def list (files : Files) (path : String) : List String :=
  match files.locate path with
  | .ok place => files.filesBelow (files.entries.length + 1) place path
  | .error _ => []

end Files

end Stencil
