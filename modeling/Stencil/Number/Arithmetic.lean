import Stencil.Number.Binary64

/-!
# Stencil.Number.Arithmetic

The arithmetic of `Binary64`. The exact result is formed first and rounded
once. A result of zero is negative where both terms of a sum are, or where the
signs of a product differ; infinities follow the rules of limits, and where
these give no answer the result is no number.

`rem` is the remainder of division towards zero: it has the sign of the
dividend and needs no rounding.
-/

namespace Stencil.Binary64

/-- The number of the opposite sign. -/
def neg : Binary64 → Binary64
  | .nan => .nan
  | .inf negative => .inf !negative
  | .finite negative m e => .finite (!negative) m e

/-- The sum of two numbers. -/
def add : Binary64 → Binary64 → Binary64
  | .nan, _ | _, .nan => .nan
  | .inf a, .inf b => if a = b then .inf a else .nan
  | .inf a, .finite .. => .inf a
  | .finite .., .inf b => .inf b
  | .finite na ma ea, .finite nb mb eb =>
    let (x, y, e) := aligned (na, ma, ea) (nb, mb, eb)
    ofScaled (na && nb) (x + y) e

/-- The difference of two numbers. -/
def sub (x y : Binary64) : Binary64 := add x (neg y)

/-- The product of two numbers. -/
def mul : Binary64 → Binary64 → Binary64
  | .nan, _ | _, .nan => .nan
  | .inf a, .inf b => .inf (a != b)
  | .inf a, .finite b m _ => if m = 0 then .nan else .inf (a != b)
  | .finite a m _, .inf b => if m = 0 then .nan else .inf (a != b)
  | .finite na ma ea, .finite nb mb eb =>
    ofScaled (na != nb) (signed (na != nb) (ma * mb)) (ea + eb)

/-- The quotient of two numbers. -/
def div : Binary64 → Binary64 → Binary64
  | .nan, _ | _, .nan => .nan
  | .inf _, .inf _ => .nan
  | .inf a, .finite b _ _ => .inf (a != b)
  | .finite a _ _, .inf b => zero (a != b)
  | .finite na ma ea, .finite nb mb eb =>
    if mb = 0 then if ma = 0 then .nan else .inf (na != nb)
    else
      let e := min ea eb
      ofRatio (na != nb) (ma * Nat.pow 2 (ea - e).toNat) (mb * Nat.pow 2 (eb - e).toNat)

/-- The remainder of the division of two numbers towards zero. -/
def rem : Binary64 → Binary64 → Binary64
  | .nan, _ | _, .nan => .nan
  | .inf _, _ => .nan
  | .finite a m e, .inf _ => .finite a m e
  | .finite na ma ea, .finite nb mb eb =>
    if mb = 0 then .nan
    else
      let (x, y, e) := aligned (na, ma, ea) (nb, mb, eb)
      ofScaled na (x.tmod y) e

end Stencil.Binary64
