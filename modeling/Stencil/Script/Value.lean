import Stencil.Json.Print
import Stencil.Number.Arithmetic
import Stencil.Number.Numeral
import Stencil.Unicode.WhiteSpace

/-!
# Stencil.Script.Value

Loose operations on JSON values. Arithmetic is that of the format binary64;
a whole number that the format holds exactly is an integer again, and since
JSON has no infinities and nothing that is no number, such a result is `null`.
-/

namespace Stencil.Script

/-! ## numbers -/

/-- The largest integer up to which the format binary64 holds all integers,
and no two of them in one number. -/
def maxSafeInteger : Nat := 9007199254740991

/-- The integer that a number is equal to, if it is a safe one. -/
def safeInt? (x : Binary64) : Option Int :=
  match x.toInt? with
  | some n => if n.natAbs ≤ maxSafeInteger then some n else none
  | none => none

/-- The value of a number: an integer if it is a safe one, and `null` if it is
not finite. -/
def ofBinary64 (x : Binary64) : Json :=
  match safeInt? x with
  | some n => .int n
  | none => if x.isFinite then .number (.float x) else .null

/-- The text of a number, a safe integer without a fraction. -/
def numberText (x : Binary64) : String :=
  match safeInt? x with
  | some n => toString n
  | none => x.decimalText

/-- The greatest integer of 64 bits with a sign. -/
def maxInt64 : Int := (Nat.pow 2 63 : Int) - 1

/-! ## conversions -/

/-- Whether a value counts as true in a condition. -/
def truthy : Json → Bool
  | .null => false
  | .bool b => b
  | .number n => !n.toBinary64.isZero && !n.toBinary64.isNaN
  | .string s => s != ""
  | .array _ | .object _ => true

mutual

/-- The text that a value is written as. `null` is written as nothing, an array
as its items with commas between them, an object as JSON. -/
def display : Json → String
  | .null => ""
  | .bool b => if b then "true" else "false"
  | .number (.int n) => if n ≤ maxInt64 then toString n else numberText (.ofInt n)
  | .number (.float x) => numberText x
  | .string s => s
  | .array items => String.intercalate "," (displayItems items)
  | .object fields => (Json.object fields).text

/-- The texts that items are written as. -/
def displayItems : List Json → List String
  | [] => []
  | item :: rest => display item :: displayItems rest

end

/-- The number that a value counts as. A text counts as the number written in
it; one of white space counts as zero. -/
def toNumber : Json → Binary64
  | .null => .zero false
  | .bool b => .ofInt (if b then 1 else 0)
  | .number n => n.toBinary64
  | .string s =>
    let cs := Text.trimChars Unicode.isWhiteSpace s.toList
    if cs.isEmpty then .zero false else (Numeral.parse? cs).getD .nan
  | .array _ | .object _ => .nan

/-- The word for the kind of a value. -/
def kindName : Json → String
  | .null => "null"
  | .bool _ => "boolean"
  | .number _ => "number"
  | .string _ => "string"
  | .array _ => "array"
  | .object _ => "object"

/-! ## operators -/

/-- Whether `+` joins texts when this is one of its operands. -/
def isTextual : Json → Bool
  | .string _ | .array _ | .object _ => true
  | _ => false

/-- The operator `+`: it joins texts if one operand is textual, and adds
numbers otherwise. -/
def add (left right : Json) : Json :=
  if isTextual left || isTextual right then .string (display left ++ display right)
  else ofBinary64 (toNumber left |>.add (toNumber right))

/-- The operator `-`. -/
def subtract (left right : Json) : Json := ofBinary64 (toNumber left |>.sub (toNumber right))

/-- The operator `==`: two numbers are compared by value, anything else has to
be the same. -/
def equals : Json → Json → Bool
  | .number a, .number b => a.toBinary64.equal b.toBinary64
  | a, b => a.same b

/-- The order behind `<`, `<=`, `>` and `>=`: of two texts by code points, of
anything else by number. Values without a number are not ordered. -/
def order? : Json → Json → Option Ordering
  | .string a, .string b => some (compare a b)
  | a, b => (toNumber a).compare? (toNumber b)

end Stencil.Script
