/-!
# Square roots of whole numbers

`floorRoot n` is the greatest number whose square is at most `n` (`floorRoot_mul_self_le`,
`lt_floorRoot_succ_mul_self`). `roundRoot` takes the root of a quotient to the nearest whole number;
nothing is rounded before that.
-/

namespace PlanarArm

/-- The greatest number whose square is at most `n`, found two binary digits of `n` at a time. -/
def floorRoot (n : Nat) : Nat :=
  if _h : n = 0 then 0
  else
    let root := 2 * floorRoot (n / 4)
    if (root + 1) * (root + 1) ≤ n then root + 1 else root
termination_by n
decreasing_by omega

/-- The root lies between two successive squares: a doubled root of a quarter is short of it by one
at most. -/
theorem floorRoot_bounds (n : Nat) :
    floorRoot n * floorRoot n ≤ n ∧ n < (floorRoot n + 1) * (floorRoot n + 1) := by
  induction n using Nat.strongRecOn with
  | ind n ih =>
    unfold floorRoot
    split
    · next zero => simp [zero]
    · next nonzero =>
      obtain ⟨lower, upper⟩ := ih (n / 4) (by omega)
      generalize floorRoot (n / 4) = half at lower upper
      have double : 2 * half * (2 * half) = 4 * (half * half) := Nat.mul_mul_mul_comm ..
      have next : (2 * half + 1 + 1) * (2 * half + 1 + 1) = 4 * ((half + 1) * (half + 1)) :=
        Nat.mul_mul_mul_comm 2 (half + 1) 2 (half + 1)
      dsimp only
      split
      · next fits => exact ⟨fits, by omega⟩
      · next beyond => exact ⟨by omega, by omega⟩

theorem floorRoot_mul_self_le (n : Nat) : floorRoot n * floorRoot n ≤ n :=
  (floorRoot_bounds n).1

theorem lt_floorRoot_succ_mul_self (n : Nat) : n < (floorRoot n + 1) * (floorRoot n + 1) :=
  (floorRoot_bounds n).2

/-- The whole number nearest to the root of `num / den`; of two equally near ones the even one. The
whole part of twice the root tells on which side of a half the root lies. -/
def roundRoot (num den : Nat) : Nat :=
  let twice := floorRoot (4 * num / den)
  let below := twice / 2
  if twice % 2 = 0 then below
  else if twice * twice * den = 4 * num ∧ below % 2 = 0 then below
  else below + 1

end PlanarArm
