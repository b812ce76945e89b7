/-!
# Rounding a quotient

`roundDiv` rounds a quotient of natural numbers to the nearest whole number, a half going to the
even neighbour. Sums of decimals and the doubles nearest to a quotient are rounded so.
-/

namespace Remit

/-- The quotient of two numbers, rounded to the nearest, a half to the even neighbour. -/
def roundDiv (n d : Nat) : Nat :=
  let q := n / d
  let r := n % d
  if 2 * r < d ∨ (2 * r = d ∧ q % 2 = 0) then q else q + 1

/-- A whole number is not changed by rounding. -/
@[simp] theorem roundDiv_one (n : Nat) : roundDiv n 1 = n := by
  simp [roundDiv, Nat.mod_one]

end Remit
