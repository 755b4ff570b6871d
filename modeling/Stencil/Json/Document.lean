import Stencil.Json.Basic
import Stencil.Number.Numeral

/-!
# Stencil.Json.Document

The syntax tree of a JSON text, before anything is decided about it: fields in
the order they are written, with equal names side by side, numerals with all
their digits, and strings that may hold half of a surrogate pair. `toJson?`
takes a document to the value it means, if it means one.
-/

namespace Stencil.Json

/-- A JSON text as a tree. A string that holds half of a surrogate pair has no
text. -/
inductive Document where
  | null
  | bool (b : Bool)
  /-- A numeral, and whether it has neither a point nor an exponent. -/
  | number (value : Numeral) (plain : Bool)
  | string (s : Option String)
  | array (items : List Document)
  | object (fields : List (Option String × Document))

namespace Document

/-- Whether an integer fits 64 bits, with a sign or without. -/
def fits64 (n : Int) : Bool := -(Nat.pow 2 63 : Int) ≤ n && n < (Nat.pow 2 64 : Int)

/-- The number that a numeral means. A plain numeral is an integer if it fits
64 bits; minus zero is not one. A numeral too large for the format binary64
means nothing. -/
def number? (value : Numeral) (plain : Bool) : Option Number :=
  let n := Binary64.signed value.negative value.digits
  if plain && fits64 n && !(value.negative && value.digits == 0) then some (.int n)
  else if value.toBinary64.isFinite then some (.float value.toBinary64)
  else none

mutual

/-- The value that a document means. Of fields of one name the last counts. -/
def toJson? : Document → Option Json
  | .null => some .null
  | .bool b => some (.bool b)
  | .number value plain => (number? value plain).map .number
  | .string s => s.map .string
  | .array items => (itemsToJson? items).map .array
  | .object fields => (fieldsToJson? fields).map ofFields

/-- The values that items mean. -/
def itemsToJson? : List Document → Option (List Json)
  | [] => some []
  | item :: rest => do
    let value ← toJson? item
    let values ← itemsToJson? rest
    return value :: values

/-- The values that fields mean, with their names. -/
def fieldsToJson? : List (Option String × Document) → Option (List (String × Json))
  | [] => some []
  | (key, item) :: rest => do
    let key ← key
    let value ← toJson? item
    let values ← fieldsToJson? rest
    return (key, value) :: values

end

end Document

end Stencil.Json
