import Mathlib.Analysis.SpecialFunctions.Complex.Arg
import Mathlib.Analysis.SpecialFunctions.Sqrt
import PlanarArm.Scalar.Basic

/-!
# Exact real numbers as scalars

The formulas of the library, read as formulas about real numbers. Every real number is a number and
finite, and the operations of `Scalar` that are defined by comparisons are the ones that go by the
same name in the library of mathematics. No message is made of exact numbers, so their text is
empty.
-/

namespace PlanarArm

noncomputable instance : Scalar ℝ where
  decLt := fun _ _ => Classical.propDecidable _
  decLe := fun _ _ => Classical.propDecidable _
  ofNat := Nat.cast
  pi := Real.pi
  sqrt := Real.sqrt
  sin := Real.sin
  cos := Real.cos
  atan2 y x := Complex.arg ⟨x, y⟩
  hypot x y := Real.sqrt (x * x + y * y)
  modulo x m := x - m * ⌊x / m⌋
  text _ := ""

namespace Scalar

@[simp]
theorem isNaN_real (x : ℝ) : isNaN x = false := by
  have self : decide (x ≤ x) = true := decide_eq_true le_rfl
  unfold isNaN
  rw [self]
  rfl

@[simp]
theorem isFinite_real (x : ℝ) : isFinite x = true :=
  decide_eq_true le_rfl

@[simp]
theorem maxNum_real (x y : ℝ) : maxNum x y = max x y := by
  unfold maxNum
  rw [isNaN_real]
  split
  · next less => exact (max_eq_right less.le).symm
  · next other => exact (max_eq_left (not_lt.1 other)).symm

@[simp]
theorem minNum_real (x y : ℝ) : minNum x y = min x y := by
  unfold minNum
  rw [isNaN_real]
  split
  · next less => exact (min_eq_right less.le).symm
  · next other => exact (min_eq_left (not_lt.1 other)).symm

theorem zero_real : (0.0 : ℝ) = 0 := by norm_num

theorem one_real : (1.0 : ℝ) = 1 := by norm_num

theorem abs_real (x : ℝ) : abs x = |x| := by
  have sign : abs x = if x < 0 then -x else x := by
    rw [← zero_real]
    rfl
  rw [sign]
  split
  · next negative => exact (abs_of_neg negative).symm
  · next other => exact (abs_of_nonneg (not_lt.1 other)).symm

@[simp]
theorem clamp_real {lo hi : ℝ} (order : lo ≤ hi) (x : ℝ) :
    clamp lo hi x = max lo (min hi x) := by
  unfold clamp
  split
  · next below => exact (max_eq_left (min_le_of_right_le below.le)).symm
  · next inside =>
    split
    · next above => rw [min_eq_left above.le, max_eq_right order]
    · next within => rw [min_eq_right (not_lt.1 within), max_eq_right (not_lt.1 inside)]

theorem clamp_of_mem {lo hi x : ℝ} (low : lo ≤ x) (high : x ≤ hi) : clamp lo hi x = x := by
  rw [clamp_real (low.trans high), min_eq_right high, max_eq_right low]

theorem ofDegrees_real (x : ℝ) : ofDegrees x = x * (Real.pi / 180) := by
  have formula : ofDegrees x = x * (Real.pi / (180.0 : ℝ)) := rfl
  rw [formula]
  norm_num

end Scalar

end PlanarArm
