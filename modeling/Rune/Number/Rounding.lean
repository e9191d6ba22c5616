/-!
# Rune - rounded quotients

A quotient of natural numbers is rounded to the nearest natural number, and a
half goes to the even neighbour.

Main results:

- Theorem {lit}`divRound_bounds`: the rounded quotient lies within half a unit of
  the exact one.
-/

namespace Rune

/-- The natural number nearest to `num / den`; a half goes to the even
neighbour. -/
def divRound (num den : Nat) : Nat :=
  let whole := num / den
  let rest := num % den
  if 2 * rest > den ∨ (2 * rest = den ∧ whole % 2 = 1) then whole + 1 else whole

/-- The rounded quotient lies within half a unit of the exact one. -/
theorem divRound_bounds (num : Nat) {den : Nat} (hpos : 0 < den) :
    2 * num ≤ 2 * (divRound num den * den) + den ∧
      2 * (divRound num den * den) ≤ 2 * num + den := by
  have h := Nat.div_add_mod num den
  have hcomm : den * (num / den) = num / den * den := Nat.mul_comm _ _
  have hlt := Nat.mod_lt num hpos
  unfold divRound
  dsimp only
  split
  · rw [Nat.add_mul, Nat.one_mul]
    omega
  · omega

/-- A quotient without a rest is not changed. -/
theorem divRound_mul (n : Nat) {den : Nat} (h : 0 < den) : divRound (n * den) den = n := by
  simp [divRound, Nat.mul_div_cancel _ h]
  omega

end Rune
