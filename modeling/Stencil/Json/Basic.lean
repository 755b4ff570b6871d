import Stencil.Number.Binary64

/-!
# Stencil.Json.Basic

JSON values, the data that templates are rendered with. A number is either an
integer, kept exactly, or a number of the format binary64; a reader of JSON
text makes integers of those that fit 64 bits. The fields of an object are in
increasing order of their names, each name once: `insertField` keeps them so.
-/

namespace Stencil

/-- A JSON number. -/
inductive Number where
  /-- An integer, kept exactly. -/
  | int (n : Int)
  /-- Any other number. -/
  | float (x : Binary64)
  deriving DecidableEq, Repr

/-- The number of the format binary64 nearest to a JSON number. -/
def Number.toBinary64 : Number → Binary64
  | .int n => .ofInt n
  | .float x => x

/-- A JSON value. -/
inductive Json where
  | null
  | bool (b : Bool)
  | number (n : Number)
  | string (s : String)
  | array (items : List Json)
  | object (fields : List (String × Json))

namespace Json

instance : Inhabited Json := ⟨.null⟩

/-- An integer as a JSON value. -/
def int (n : Int) : Json := .number (.int n)

/-! ## objects -/

/-- Fields with `key` holding `value`: a field of that name is replaced, a new
one takes its place in the order. -/
def insertField (key : String) (value : Json) : List (String × Json) → List (String × Json)
  | [] => [(key, value)]
  | (k, v) :: rest =>
    if key < k then (key, value) :: (k, v) :: rest
    else if key = k then (key, value) :: rest
    else (k, v) :: insertField key value rest

/-- The object with the given fields, the last of equal names counting. -/
def ofFields (fields : List (String × Json)) : Json :=
  .object (fields.foldl (fun acc (key, value) => insertField key value acc) [])

/-- The value of a field, or `null` where there is none. -/
def field (key : String) (fields : List (String × Json)) : Json :=
  (fields.lookup key).getD .null

/-! ## equality -/

/-- Equality of numbers inside a value: the same kind and the same number. -/
def sameNumber : Number → Number → Bool
  | .int a, .int b => a == b
  | .float a, .float b => a.equal b
  | _, _ => false

mutual

/-- Equality of values. -/
def same : Json → Json → Bool
  | .null, .null => true
  | .bool a, .bool b => a == b
  | .number a, .number b => sameNumber a b
  | .string a, .string b => a == b
  | .array as, .array bs => sameItems as bs
  | .object as, .object bs => sameFields as bs
  | _, _ => false

/-- Equality of items, one by one. -/
def sameItems : List Json → List Json → Bool
  | [], [] => true
  | a :: as, b :: bs => same a b && sameItems as bs
  | _, _ => false

/-- Equality of fields, one by one. -/
def sameFields : List (String × Json) → List (String × Json) → Bool
  | [], [] => true
  | (j, a) :: as, (k, b) :: bs => j == k && same a b && sameFields as bs
  | _, _ => false

end

end Json

end Stencil
