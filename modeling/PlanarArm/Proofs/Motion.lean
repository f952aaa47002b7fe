import Mathlib.Tactic.Positivity
import PlanarArm.Motion
import PlanarArm.Proofs.Scalar.Real

/-!
# Motions in exact numbers

A motion takes some time (`motionTime_pos`). As long as less time has passed, its progress is the
part of the time that has passed (`Motion.progress_of_lt`), the joints are on their way
(`Motion.anglesAt_of_lt`), and a new timing keeps the progress (`Motion.retime_progress`).
-/

namespace PlanarArm

theorem clampSpeed_real (value : ℝ) : clampSpeed value = max 0 (min 1 value) := by
  unfold clampSpeed
  rw [Scalar.isNaN_real, if_neg Bool.false_ne_true]
  have order : (0.0 : ℝ) ≤ 1.0 := by norm_num
  refine (Scalar.clamp_real order value).trans ?_
  rw [Scalar.zero_real, Scalar.one_real]

theorem clampSpeed_of_mem {value : ℝ} (low : 0 ≤ value) (high : value ≤ 1) :
    clampSpeed value = value := by
  rw [clampSpeed_real, min_eq_right high, max_eq_right low]

theorem motionTime_pos (m : ArmModel ℝ) (start target : JointPair ℝ) (scale : ℝ) :
    0 < motionTime m start target scale := by
  have least : (0 : ℝ) < 0.08 := by norm_num
  unfold motionTime
  dsimp only
  rw [Scalar.maxNum_real]
  exact lt_max_of_lt_right least

theorem smoothstep_real {u : ℝ} (low : 0 ≤ u) (high : u ≤ 1) :
    smoothstep u = u * u * (3 - 2 * u) := by
  have unit : Scalar.clamp (0.0 : ℝ) 1.0 u = u :=
    Scalar.clamp_of_mem (Scalar.zero_real.trans_le low) (high.trans_eq Scalar.one_real.symm)
  have ease : smoothstep u = Scalar.clamp (0.0 : ℝ) 1.0 u * Scalar.clamp (0.0 : ℝ) 1.0 u *
      ((3.0 : ℝ) - (2.0 : ℝ) * Scalar.clamp (0.0 : ℝ) 1.0 u) := rfl
  rw [ease, unit]
  norm_num

theorem smoothstep_zero : smoothstep (0 : ℝ) = 0 := by
  rw [smoothstep_real le_rfl zero_le_one, zero_mul, zero_mul]

theorem JointPair.home_real : (JointPair.home : JointPair ℝ) = ⟨0, 0⟩ := by
  have formula : (JointPair.home : JointPair ℝ) = ⟨(0.0 : ℝ), (0.0 : ℝ)⟩ := rfl
  rw [formula, Scalar.zero_real]

theorem JointPair.lerp_zero (a b : JointPair ℝ) : a.lerp b 0 = a := by
  have shoulder : a.shoulder + (b.shoulder - a.shoulder) * 0 = a.shoulder := by ring
  have elbow : a.elbow + (b.elbow - a.elbow) * 0 = a.elbow := by ring
  exact congr (congrArg JointPair.mk shoulder) elbow

theorem JointRange.clamp?_of_mem {r : JointRange ℝ} {angle : ℝ} (low : r.lo ≤ angle)
    (high : angle ≤ r.hi) : r.clamp? angle = some angle := by
  unfold JointRange.clamp?
  rw [if_pos (low.trans high), Scalar.clamp_of_mem low high]

namespace Motion

variable {p : Motion ℝ} {elapsed : ℝ}

theorem progress_of_lt (low : 0 ≤ elapsed) (high : elapsed < p.duration) :
    p.progress elapsed = elapsed / p.duration := by
  have unit : (0.0 : ℝ) ≤ elapsed / p.duration := by
    rw [Scalar.zero_real]
    exact div_nonneg low (low.trans high.le)
  have part : elapsed / p.duration ≤ (1.0 : ℝ) := by
    rw [Scalar.one_real]
    exact div_le_one_of_le₀ high.le (low.trans high.le)
  exact Scalar.clamp_of_mem unit part

theorem progress_of_le (positive : 0 < p.duration) (done : p.duration ≤ elapsed) :
    p.progress elapsed = 1 := by
  have past : (1 : ℝ) ≤ elapsed / p.duration := (one_le_div₀ positive).2 done
  have order : (0.0 : ℝ) ≤ 1.0 := by norm_num
  refine (Scalar.clamp_real order _).trans ?_
  rw [Scalar.zero_real, Scalar.one_real, min_eq_left past]
  exact max_eq_right zero_le_one

theorem anglesAt_of_lt {u : ℝ} (under : u < 1) :
    p.anglesAt u = p.start.lerp p.target (smoothstep u) := by
  have open_ : ¬(1.0 : ℝ) ≤ u := by
    rw [Scalar.one_real]
    exact not_le.2 under
  exact if_neg open_

/-- A motion that is timed anew has as much time left as its progress wants. -/
theorem retime_progress (low : 0 ≤ p.progress elapsed) (high : p.progress elapsed < 1)
    (m : ArmModel ℝ) (scale : ℝ) :
    0 ≤ (p.retime m elapsed scale).2 ∧
      (p.retime m elapsed scale).2 < (p.retime m elapsed scale).1.duration ∧
      (p.retime m elapsed scale).1.progress (p.retime m elapsed scale).2 = p.progress elapsed := by
  have positive : 0 < (p.retime m elapsed scale).1.duration := motionTime_pos _ _ _ _
  have later : (p.retime m elapsed scale).2 =
      p.progress elapsed * (p.retime m elapsed scale).1.duration := rfl
  have start : 0 ≤ (p.retime m elapsed scale).2 := later ▸ mul_nonneg low positive.le
  have left : (p.retime m elapsed scale).2 < (p.retime m elapsed scale).1.duration :=
    later ▸ mul_lt_of_lt_one_left positive high
  refine ⟨start, left, ?_⟩
  rw [progress_of_lt start left, later, mul_div_cancel_right₀ _ positive.ne']

end Motion

end PlanarArm
