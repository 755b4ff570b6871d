import Stencil.Number.Binary64

/-!
# Stencil.Number.Numeral

Decimal numerals as they are written: a sign, digits and a power of ten. The
number that a numeral stands for is the one of the format binary64 nearest to
its exact value, however many digits it has and however far its exponent lies
out of range.

`Numeral.parse?` reads the numerals of loose text, where a sign may be `+`,
digits may be missing on one side of the point, and infinity and the value that
is no number have names.
-/

namespace Stencil

/-- The numeral `± digits · 10^exponent`. -/
structure Numeral where
  negative : Bool
  digits : Nat
  exponent : Int
  deriving DecidableEq, Repr

/-- The digits at the front of a run of characters, and what follows them. -/
def spanDigits (cs : List Char) : List Char × List Char :=
  (cs.takeWhile Char.isDigit, cs.dropWhile Char.isDigit)

/-- The natural number that a run of digits stands for. -/
def digitsValue (cs : List Char) : Nat :=
  cs.foldl (fun n c => 10 * n + (c.toNat - '0'.toNat)) 0

namespace Numeral

/-- The numeral with the given digits before and after the point, times a power
of ten. -/
def ofParts (negative : Bool) (whole fraction : List Char) (exponent : Int) : Numeral :=
  ⟨negative, digitsValue (whole ++ fraction), exponent - fraction.length⟩

/-- The number nearest to the value of a numeral. Numerals beyond 10^310 are
infinite and those below 10^-330 are zero, so powers of ten stay small. -/
def toBinary64 (x : Numeral) : Binary64 :=
  let size : Int := (Nat.toDigits 10 x.digits).length + x.exponent
  if x.digits = 0 then .zero x.negative
  else if 310 < size then .inf x.negative
  else if size < -330 then .zero x.negative
  else if 0 ≤ x.exponent then .ofRatio x.negative (x.digits * Nat.pow 10 x.exponent.toNat) 1
  else .ofRatio x.negative x.digits (Nat.pow 10 (-x.exponent).toNat)

/-- An exponent part: a letter, perhaps a sign, and digits, with nothing after
them. No part at all is the exponent zero. -/
def parseExponent? : List Char → Option Int
  | [] => some 0
  | letter :: cs =>
    if letter != 'e' && letter != 'E' then none
    else
      let (negative, digits) :=
        match cs with
        | '-' :: ds => (true, ds)
        | '+' :: ds => (false, ds)
        | ds => (false, ds)
      if digits.isEmpty || !digits.all Char.isDigit then none
      else some (Binary64.signed negative (digitsValue digits))

/-- Reads the digits of a numeral, with a point or without, and an exponent. -/
def parseUnsigned? (negative : Bool) (cs : List Char) : Option Numeral :=
  let (whole, rest) := spanDigits cs
  let (fraction, rest) :=
    match rest with
    | '.' :: ds => spanDigits ds
    | ds => ([], ds)
  if whole.isEmpty && fraction.isEmpty then none
  else (parseExponent? rest).map (ofParts negative whole fraction)

/-- Reads a number from loose text. -/
def parse? (cs : List Char) : Option Binary64 :=
  let (negative, rest) :=
    match cs with
    | '-' :: ds => (true, ds)
    | '+' :: ds => (false, ds)
    | ds => (false, ds)
  let word := rest.map Char.toLower
  if word = ['i', 'n', 'f'] ∨ word = ['i', 'n', 'f', 'i', 'n', 'i', 't', 'y'] then
    some (.inf negative)
  else if word = ['n', 'a', 'n'] then some .nan
  else (parseUnsigned? negative rest).map toBinary64

end Numeral

end Stencil
