import Foreman.Number.Power

/-!
# `Foreman.Number.Rounding` — rounding a quotient to the nearest integer

Both the conversion of seconds to nanoseconds and the arithmetic of binary floating point round an
exact quotient to a neighbouring integer, a tie going to the even one.

## Contents
- `roundQuotient`: the integer nearest to `num / den`, ties to even.
- `roundQuotient_le`: it is at most one above the quotient that is rounded down.
-/

namespace Foreman

/-- The integer nearest to `num / den`; a tie goes to the even neighbour. -/
def roundQuotient (num den : Nat) : Nat :=
  let q := num / den
  let r := num % den
  if den < 2 * r ∨ (2 * r = den ∧ q % 2 = 1) then q + 1 else q

theorem roundQuotient_le (num den : Nat) : roundQuotient num den ≤ num / den + 1 := by
  simp only [roundQuotient]
  split <;> omega

end Foreman
