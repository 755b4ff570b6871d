import Stencil.Script.Cause
import Stencil.Script.Value
import Stencil.Text.Case
import Stencil.Text.Find

/-!
# Stencil.Script.Method

The methods of values. Strings, arrays and numbers have a few of their own, and
everything but `null` has `toString`. An argument that is not given is `null`,
and one too many is ignored.
-/

namespace Stencil.Script

/-- The value of a method of a string. -/
def stringMethod? (s : String) (name : String) (arg : Json) : Option Json :=
  let part := (display arg).toList
  if name = "toUpperCase" then some (.string (Text.toUpper s))
  else if name = "toLowerCase" then some (.string (Text.toLower s))
  else if name = "trim" then some (.string (Unicode.trimWhiteSpace s))
  else if name = "includes" then some (.bool (Text.occursIn part s.toList))
  else if name = "startsWith" then some (.bool (part.isPrefixOf s.toList))
  else if name = "endsWith" then some (.bool (part.isSuffixOf s.toList))
  else none

/-- What `join` puts between items: a comma if nothing is asked for. -/
def separator : Json → String
  | .null => ","
  | arg => display arg

/-- The value of a method of an array. -/
def arrayMethod? (items : List Json) (name : String) (arg : Json) : Option Json :=
  if name = "join" then some (.string (String.intercalate (separator arg) (displayItems items)))
  else if name = "includes" then some (.bool (items.any (equals · arg)))
  else none

/-- The number of decimal places that an argument asks for, from 0 to 100. -/
def places (arg : Json) : Nat :=
  match toNumber arg with
  | .nan => 0
  | .inf negative => if negative then 0 else 100
  | .finite negative m e =>
    if negative then 0
    else min 100 (if 0 ≤ e then m * Nat.pow 2 e.toNat else m / Nat.pow 2 (-e).toNat)

/-- The value of a method of a number. -/
def numberMethod? (n : Number) (name : String) (arg : Json) : Option Json :=
  if name = "toFixed" then some (.string (n.toBinary64.fixedText (places arg))) else none

/-- The value of a method that only values of one kind have. -/
def ownMethod? (target : Json) (name : String) (arg : Json) : Option Json :=
  match target with
  | .string s => stringMethod? s name arg
  | .array items => arrayMethod? items name arg
  | .number n => numberMethod? n name arg
  | _ => none

/-- The value of a method of any value. -/
def callMethod (target : Json) (name : String) (args : List Json) : Except RuntimeCause Json :=
  match target with
  | .null => .error (.propertyOfNull name)
  | target =>
    match ownMethod? target name (args.head?.getD .null) with
    | some value => .ok value
    | none =>
      if name = "toString" then .ok (.string (display target))
      else .error (.notMethod (kindName target) name)

end Stencil.Script
