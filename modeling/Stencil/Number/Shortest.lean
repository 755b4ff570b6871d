import Stencil.Number.Binary64

/-!
# Stencil.Number.Shortest

The shortest decimal numbers that stand for numbers of the format binary64. A
decimal number stands for a binary one if rounding takes it there, that is, if
it lies between the two points halfway to the neighbours; the points themselves
count if the significand is even, because a half goes to the even neighbour.

For 1, 2, … 17 digits there are only two candidates, the multiples of a power
of ten next below and next above the value. The first count with a candidate
that stands for the number is taken, and of two such candidates the nearer.
Where both are equally near, `Tie` decides.
-/

namespace Stencil.Binary64

/-- A decimal number `digits · 10^exponent`. -/
structure Decimal where
  digits : Nat
  exponent : Int
  deriving DecidableEq, Repr

/-- Which of two equally near decimal numbers is taken. -/
inductive Tie where
  /-- The greater one. -/
  | up
  /-- The one with an even last digit. -/
  | even
  deriving DecidableEq, Repr

/-- `n · 2^e / 10^p` as a fraction. -/
def inTens (n : Nat) (e p : Int) : Nat × Nat :=
  let num := n * Nat.pow 2 e.toNat * Nat.pow 10 (-p).toNat
  let den := Nat.pow 2 (-e).toNat * Nat.pow 10 p.toNat
  (num, den)

/-- The integer `k` with `10^k ≤ m · 2^e < 10^(k+1)`, for a positive `m`. The
first guess takes 30103/100000 for the logarithm of 2 and is off by one at
most. -/
def floorLog10 (m : Nat) (e : Int) : Int :=
  let guess := ((m.log2 + e) * 30103).fdiv 100000
  let (n, d) := inTens m e guess
  if n < d then guess - 1 else if 10 * d ≤ n then guess + 1 else guess

/-- The candidate of `count` digits for the number `m · 2^e`, if one stands for
it. Quarters of the last bit are counted, since the halfway point below a power
of two is a quarter away. -/
def candidate? (tie : Tie) (m : Nat) (e : Int) (count : Nat) : Option Decimal :=
  let p := floorLog10 m e - count + 1
  let (n, d) := inTens (4 * m) (e - 2) p
  let (unit, _) := inTens 1 (e - 2) p
  let gapBelow := if m = Nat.pow 2 (precision - 1) ∧ minExponent < e then unit else 2 * unit
  let below := n / d
  let distBelow := n - below * d
  let distAbove := (below + 1) * d - n
  let inside (dist gap : Nat) : Bool := if m % 2 = 0 then dist ≤ gap else dist < gap
  let belowStands := inside distBelow gapBelow
  let aboveStands := inside distAbove (2 * unit)
  let upward : Bool :=
    if distBelow = distAbove then
      match tie with
      | .up => true
      | .even => below % 2 == 1
    else distAbove < distBelow
  if aboveStands && (!belowStands || upward) then some ⟨below + 1, p⟩
  else if belowStands then some ⟨below, p⟩
  else none

/-- A decimal number with the zeros at the end of its digits moved into the
exponent; at most `fuel` of them. -/
def Decimal.strip : Nat → Decimal → Decimal
  | 0, x => x
  | fuel + 1, x =>
    if x.digits ≠ 0 ∧ x.digits % 10 = 0 then strip fuel ⟨x.digits / 10, x.exponent + 1⟩ else x

/-- The shortest decimal number that stands for `m · 2^e`, for a positive `m`. -/
def shortest (tie : Tie) (m : Nat) (e : Int) : Decimal :=
  match (List.range 17).findSome? fun i => candidate? tie m e (i + 1) with
  | some x => x.strip 17
  | none => ⟨0, 0⟩

end Stencil.Binary64
