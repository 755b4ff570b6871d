import Stencil.Script.Cause
import Stencil.Script.Value

/-!
# Stencil.Script.Property

Reading `parent[key]`. An array and a string have their length under the key
`length` and their items or characters under the numbers from zero on; an
object has its fields. Anything else that is asked for is `null`, and asking
`null` for anything is an error.
-/

namespace Stencil.Script

/-- The position that a key stands for: a whole number that is not negative. -/
def position? (key : Json) : Option Nat :=
  match (toNumber key).toInt? with
  | some (.ofNat n) => some n
  | _ => none

/-- Whether a key is the text `length`. -/
def isLengthKey : Json → Bool
  | .string s => s == "length"
  | _ => false

/-- The length of a sequence or its element at a key. -/
def element (key : Json) (elements : List Json) : Json :=
  if isLengthKey key then .int elements.length
  else ((position? key).bind (elements[·]?)).getD .null

/-- The characters of a text as values. -/
def characters (s : String) : List Json := s.toList.map fun c => .string (String.ofList [c])

/-- The value of `parent[key]`. -/
def property (parent key : Json) : Except RuntimeCause Json :=
  match parent with
  | .null => .error (.propertyOfNull (display key))
  | .string s => .ok (element key (characters s))
  | .array items => .ok (element key items)
  | .object fields => .ok (Json.field (display key) fields)
  | .bool _ | .number _ => .ok .null

end Stencil.Script
