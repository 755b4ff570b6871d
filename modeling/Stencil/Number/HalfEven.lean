/-!
# Stencil.Number.HalfEven

Rounding a quotient of natural numbers to the nearest natural number, a half
going to the even neighbour. `roundDiv_of_dvd` says that an exact quotient is
left alone.
-/

namespace Stencil.Number

/-- The natural number nearest to `num / den`; of two equally near, the even
one. -/
def roundDiv (num den : Nat) : Nat :=
  let quotient := num / den
  let twice := 2 * (num % den)
  if twice < den then quotient
  else if den < twice then quotient + 1
  else if quotient % 2 = 0 then quotient
  else quotient + 1

/-- An exact quotient is not changed by rounding. -/
theorem roundDiv_of_dvd {num den : Nat} (hden : 0 < den) (h : den ∣ num) :
    roundDiv num den = num / den := by
  simp [roundDiv, Nat.mod_eq_zero_of_dvd h, hden]

@[simp] theorem roundDiv_one (num : Nat) : roundDiv num 1 = num := by
  simp [roundDiv_of_dvd]

end Stencil.Number
