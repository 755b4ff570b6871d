import Stencil.Number.HalfEven

/-!
# Stencil.Number.Binary64

Numbers of the format binary64: a sign, a significand below 2^53 and a power of
two from -1074 to 971, together with two infinities and one value that is no
number. Everything is done on the exact value `± significand · 2^exponent`, so
one function decides all rounding: `ofRatio` takes an exact fraction to the
nearest number of the format, a half going to the even significand.

The numbers that `ofRatio` makes are normalised: the significand has all its 53
bits unless the exponent is the least one.
-/

namespace Stencil

/-- A number of the format binary64. -/
inductive Binary64 where
  /-- The outcome of an operation that has no number for an answer. -/
  | nan
  /-- Infinity with a sign. -/
  | inf (negative : Bool)
  /-- The number `± significand · 2^exponent`. -/
  | finite (negative : Bool) (significand : Nat) (exponent : Int)
  deriving DecidableEq, Repr

namespace Binary64

/-- The number of bits of a significand. -/
def precision : Nat := 53

/-- The least power of two. -/
def minExponent : Int := -1074

/-- The greatest power of two. -/
def maxExponent : Int := 971

/-- Zero with a sign. -/
def zero (negative : Bool) : Binary64 := .finite negative 0 minExponent

/-! ## rounding -/

/-- `num / den` as a fraction in units of `2^e`. -/
def inUnits (num den : Nat) (e : Int) : Nat × Nat :=
  if 0 ≤ e then (num, den * Nat.pow 2 e.toNat) else (num * Nat.pow 2 (-e).toNat, den)

/-- The integer `k` with `2^k ≤ num / den < 2^(k+1)`, for positive numbers. -/
def floorLog2 (num den : Nat) : Int :=
  let k : Int := num.log2 - den.log2
  let (n, d) := inUnits num den k
  if n < d then k - 1 else k

/-- The power of two that the last bit of a number near `num / den` counts. -/
def unitExponent (num den : Nat) : Int :=
  max minExponent (floorLog2 num den - (precision - 1))

/-- The number with a significand that may have grown by one bit, or infinity
where the exponent is out of range. -/
def normalise (negative : Bool) (significand : Nat) (e : Int) : Binary64 :=
  let (m, e) :=
    if significand = Nat.pow 2 precision then (Nat.pow 2 (precision - 1), e + 1) else (significand, e)
  if maxExponent < e then .inf negative else .finite negative m e

/-- The number nearest to `± num / den`. -/
def ofRatio (negative : Bool) (num den : Nat) : Binary64 :=
  if num = 0 then zero negative
  else
    let e := unitExponent num den
    let (n, d) := inUnits num den e
    normalise negative (Number.roundDiv n d) e

/-- The number nearest to an integer. -/
def ofInt (n : Int) : Binary64 := ofRatio (n < 0) n.natAbs 1

/-- The number nearest to `n · 2^e`; `negative` is the sign of a zero. -/
def ofScaled (negative : Bool) (n : Int) (e : Int) : Binary64 :=
  if n = 0 then zero negative
  else if 0 ≤ e then ofRatio (n < 0) (n.natAbs * Nat.pow 2 e.toNat) 1
  else ofRatio (n < 0) n.natAbs (Nat.pow 2 (-e).toNat)

/-! ## reading the value -/

/-- A magnitude with a sign. -/
def signed (negative : Bool) (n : Nat) : Int := if negative then -n else n

/-- Two finite numbers as integers in units of the smaller of their powers of
two. -/
def aligned (x y : Bool × Nat × Int) : Int × Int × Int :=
  let e := min x.2.2 y.2.2
  (signed x.1 (x.2.1 * Nat.pow 2 (x.2.2 - e).toNat), signed y.1 (y.2.1 * Nat.pow 2 (y.2.2 - e).toNat), e)

/-- The integer that a number is equal to, if it is one. -/
def toInt? : Binary64 → Option Int
  | .finite negative m e =>
    if 0 ≤ e then some (signed negative (m * Nat.pow 2 e.toNat))
    else if m % Nat.pow 2 (-e).toNat = 0 then some (signed negative (m / Nat.pow 2 (-e).toNat))
    else none
  | _ => none

/-- Whether a number is neither infinite nor the value that is no number. -/
def isFinite : Binary64 → Bool
  | .finite .. => true
  | _ => false

/-- Whether a number is zero, of either sign. -/
def isZero : Binary64 → Bool
  | .finite _ m _ => m == 0
  | _ => false

/-- Whether a value is no number. -/
def isNaN : Binary64 → Bool
  | .nan => true
  | _ => false

/-- The order of two numbers by value, the two zeros being equal. The value
that is no number has no place in it. -/
def compare? : Binary64 → Binary64 → Option Ordering
  | .nan, _ | _, .nan => none
  | .inf a, .inf b => some (compare b a)
  | .inf a, .finite .. => some (if a then .lt else .gt)
  | .finite .., .inf b => some (if b then .gt else .lt)
  | .finite na ma ea, .finite nb mb eb =>
    let (x, y, _) := aligned (na, ma, ea) (nb, mb, eb)
    some (compare x y)

/-- Whether two numbers are equal by value. -/
def equal (x y : Binary64) : Bool := compare? x y == some .eq

end Binary64

end Stencil
