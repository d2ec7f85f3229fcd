/-!
Rounding a quotient of natural numbers to a whole number.
-/

namespace BenefitScreen

/-- The whole number nearest to `n / d`; a half goes to the even neighbour. -/
def divHalfEven (n d : Nat) : Nat :=
  if d < 2 * (n % d) ∨ (2 * (n % d) = d ∧ n / d % 2 = 1) then n / d + 1 else n / d

theorem le_divHalfEven (n d : Nat) : n / d ≤ divHalfEven n d := by
  unfold divHalfEven
  split <;> omega

theorem divHalfEven_le (n d : Nat) : divHalfEven n d ≤ n / d + 1 := by
  unfold divHalfEven
  split <;> omega

@[simp]
theorem divHalfEven_one (n : Nat) : divHalfEven n 1 = n := by
  unfold divHalfEven
  simp [Nat.mod_one]

end BenefitScreen
