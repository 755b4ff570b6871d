import Stencil.Number.Shortest

/-!
# Stencil.Number.Notation

Numbers written down in three ways:

1. `decimalText`, for data shown to a reader: the shortest digits, never an
   exponent;
2. `exactText`, for numbers inside a JSON text: the shortest digits with a
   fraction kept even if it is zero, and an exponent for the very large and the
   very small;
3. `fixedText`: a given number of places, correctly rounded from the exact
   value.
-/

namespace Stencil.Binary64

/-- The decimal digits of a natural number. -/
def digitChars (n : Nat) : List Char := Nat.toDigits 10 n

/-- `n` zeros. -/
def zeros (n : Nat) : List Char := List.replicate n '0'

/-- The sign of a negative number. -/
def signChars (negative : Bool) : List Char := if negative then ['-'] else []

/-- Digits with a point before the last `places` of them, and with zeros in
front so that a digit stands before the point. -/
def pointed (digits : List Char) (places : Nat) : List Char :=
  if places = 0 then digits
  else
    let padded := zeros (places + 1 - digits.length) ++ digits
    padded.take (padded.length - places) ++ '.' :: padded.drop (padded.length - places)

/-- A decimal number without an exponent. -/
def Decimal.positional (x : Decimal) : List Char :=
  let digits := digitChars x.digits
  if 0 ≤ x.exponent then digits ++ zeros x.exponent.toNat
  else pointed digits (-x.exponent).toNat

/-- The power of ten that the first digit counts. -/
def Decimal.magnitude (x : Decimal) : Int := x.exponent + (digitChars x.digits).length - 1

/-- A decimal number with one digit before the point and an exponent, whose
sign is always written. -/
def Decimal.scientific (x : Decimal) : List Char :=
  let digits := digitChars x.digits
  let power := x.magnitude
  pointed digits (digits.length - 1) ++ 'e' :: (if power < 0 then '-' else '+') ::
    digitChars power.natAbs

/-- The text of a number for a reader. -/
def decimalText : Binary64 → String
  | .nan => "NaN"
  | .inf negative => String.ofList (signChars negative ++ ['i', 'n', 'f'])
  | .finite negative m e =>
    String.ofList (signChars negative ++
      if m = 0 then ['0'] else (shortest .up m e).positional)

/-- The text of a number inside a JSON text. The exponent is written unless the
first digit counts a power of ten from -5 to 15. JSON has no text for what is
not finite. -/
def exactText : Binary64 → String
  | .nan | .inf _ => "null"
  | .finite negative m e =>
    String.ofList (signChars negative ++
      if m = 0 then ['0', '.', '0']
      else
        let x := shortest .even m e
        if -5 ≤ x.magnitude ∧ x.magnitude < 16 then
          x.positional ++ if 0 ≤ x.exponent then ['.', '0'] else []
        else x.scientific)

/-- The text of a number with `places` decimal places; a half goes to the even
neighbour. -/
def fixedText (places : Nat) : Binary64 → String
  | .nan => "NaN"
  | .inf negative => String.ofList (signChars negative ++ ['i', 'n', 'f'])
  | .finite negative m e =>
    let (num, den) := inTens m e (-places)
    String.ofList (signChars negative ++ pointed (digitChars (Number.roundDiv num den)) places)

end Stencil.Binary64
