/-!
# Rounding a quotient of whole numbers

`roundDiv` rounds to the nearest whole number, a half to the even neighbour. `roundDiv_near` bounds
the error by half a unit, `roundDiv_le` and `lt_roundDiv` compare a rounded quotient with a whole
number, and `roundDiv_even_of_half` gives the rule for halves.
-/

namespace PlanarArm

/-- The whole number nearest to `num / den`; of two equally near ones the even one. -/
def roundDiv (num den : Nat) : Nat :=
  let q := num / den
  let twice := 2 * (num % den)
  if twice < den then q
  else if den < twice then q + 1
  else if q % 2 = 0 then q else q + 1

/-- Rounding is off by at most half a unit. -/
theorem roundDiv_near {num den : Nat} (pos : 0 < den) :
    2 * (roundDiv num den * den) ≤ 2 * num + den ∧
      2 * num ≤ 2 * (roundDiv num den * den) + den := by
  have split : den * (num / den) + num % den = num := Nat.div_add_mod num den
  have below : num % den < den := Nat.mod_lt _ pos
  have comm : num / den * den = den * (num / den) := Nat.mul_comm ..
  have next : (num / den + 1) * den = den * (num / den) + den := by
    rw [Nat.add_mul, Nat.one_mul, comm]
  unfold roundDiv
  dsimp only
  repeat' split
  all_goals omega

theorem roundDiv_le {num den bound : Nat} (below : 2 * num < (2 * bound + 1) * den) :
    roundDiv num den ≤ bound := by
  have pos : 0 < den := Nat.pos_of_ne_zero (by rintro rfl; omega)
  have near := (@roundDiv_near num den pos).1
  refine Nat.le_of_not_lt fun more => ?_
  have least : (bound + 1) * den ≤ roundDiv num den * den := Nat.mul_le_mul_right den more
  rw [Nat.add_mul, Nat.mul_assoc] at below
  rw [Nat.add_mul] at least
  omega

theorem lt_roundDiv {num den bound : Nat} (pos : 0 < den)
    (above : (2 * bound + 1) * den < 2 * num) : bound < roundDiv num den := by
  have near := (@roundDiv_near num den pos).2
  refine Nat.lt_of_not_le fun less => ?_
  have most : roundDiv num den * den ≤ bound * den := Nat.mul_le_mul_right den less
  rw [Nat.add_mul, Nat.mul_assoc] at above
  omega

/-- A quotient of at most a half is rounded to zero, which is even. -/
theorem roundDiv_eq_zero_iff {num den : Nat} (pos : 0 < den) :
    roundDiv num den = 0 ↔ 2 * num ≤ den := by
  constructor
  · intro zero
    refine Nat.le_of_not_lt fun more => ?_
    have least : 0 < roundDiv num den := lt_roundDiv pos (by omega)
    omega
  · intro most
    have quotient : num / den = 0 := Nat.div_eq_of_lt (by omega)
    have rest : num % den = num := Nat.mod_eq_of_lt (by omega)
    unfold roundDiv
    rw [quotient, rest]
    dsimp only
    split
    · rfl
    · rw [if_neg (by omega), if_pos (by omega)]

/-- A half goes to the even neighbour. -/
theorem roundDiv_even_of_half {num den : Nat} (half : 2 * (num % den) = den) :
    roundDiv num den % 2 = 0 := by
  unfold roundDiv
  dsimp only
  repeat' split
  all_goals omega

/-- A whole quotient is its own rounding. -/
theorem roundDiv_of_dvd {num den : Nat} (pos : 0 < den) (whole : num % den = 0) :
    roundDiv num den = num / den := by
  unfold roundDiv
  dsimp only
  rw [whole, Nat.mul_zero, if_pos pos]

end PlanarArm
