/-!
# Rounding a quotient

`roundHalfEven` takes a quotient of natural numbers to the nearest whole number; a quotient that
lies halfway goes to the even neighbour.
-/

namespace Gridwork

/-- The whole number nearest to `num / den`, halves going to the even neighbour. -/
def roundHalfEven (num den : Nat) : Nat :=
  let q := num / den
  let r := num % den
  if den < 2 * r ∨ (2 * r = den ∧ q % 2 = 1) then q + 1 else q

example : (roundHalfEven 5 2, roundHalfEven 7 2, roundHalfEven 7 3) = (2, 4, 2) := by decide

end Gridwork
