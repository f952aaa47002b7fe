import PlanarArm.Proofs.Motion
import PlanarArm.Proofs.Arm.Model

/-!
# The time of a motion

A motion is timed by its way (`JointPair.way`), the longer of the turns of its two joints, and by
the speed scale as it is brought into its bounds (`timedScale`). The way is a distance, the time is
proportional to it, and the least time is a floor below it (`motionTime_real`); so what is known of
distances holds of times.

* `motionTime_comm`, `motionTime_triangle`: there and back take the same time, and a detour takes no
  less.
* `motionTime_antitone`, `motionTime_half_le`, `motionTime_half_eq`: what the speed scale does.
* `motion_time_laws`: all of it together, for accepted arms.
-/

namespace PlanarArm

/-! ## Ways -/

/-- The longer of the turns of the two joints between two pairs of angles. -/
noncomputable def JointPair.way (a b : JointPair ℝ) : ℝ :=
  max |b.shoulder - a.shoulder| |b.elbow - a.elbow|

namespace JointPair

theorem way_nonneg (a b : JointPair ℝ) : 0 ≤ a.way b :=
  le_max_of_le_left (abs_nonneg _)

theorem way_comm (a b : JointPair ℝ) : b.way a = a.way b := by
  rw [way, abs_sub_comm, abs_sub_comm a.elbow, way]

theorem way_triangle (a b c : JointPair ℝ) : a.way c ≤ a.way b + b.way c := by
  have shoulder : |c.shoulder - a.shoulder| ≤
      |b.shoulder - a.shoulder| + |c.shoulder - b.shoulder| := by
    rw [add_comm]
    exact abs_sub_le c.shoulder b.shoulder a.shoulder
  have elbow : |c.elbow - a.elbow| ≤ |b.elbow - a.elbow| + |c.elbow - b.elbow| := by
    rw [add_comm]
    exact abs_sub_le c.elbow b.elbow a.elbow
  refine max_le (shoulder.trans ?_) (elbow.trans ?_)
  · exact add_le_add (le_max_left _ _) (le_max_left _ _)
  · exact add_le_add (le_max_right _ _) (le_max_right _ _)

end JointPair

/-! ## Scales -/

/-- The speed scale that motions are timed with for a scale. -/
noncomputable def timedScale (scale : ℝ) : ℝ :=
  max 0.05 (min 1 scale)

theorem timedScale_pos (scale : ℝ) : 0 < timedScale scale :=
  lt_max_of_lt_left (by norm_num)

theorem timedScale_mono {slow fast : ℝ} (order : slow ≤ fast) : timedScale slow ≤ timedScale fast :=
  max_le_max le_rfl (min_le_min le_rfl order)

/-- Half of a scale counts at least half. Below the least scale it counts all of it, which for a
negative one is more. -/
theorem timedScale_half_le (scale : ℝ) : timedScale scale ≤ 2 * timedScale (scale / 2) := by
  have floor : 0.05 ≤ timedScale (scale / 2) := le_max_left _ _
  have half : min 1 (scale / 2) ≤ timedScale (scale / 2) := le_max_right _ _
  refine max_le (by linarith) ?_
  rcases le_total 1 (scale / 2) with large | small
  · rw [min_eq_left large] at half
    exact (min_le_left _ _).trans (by linarith)
  · rw [min_eq_right small] at half
    exact (min_le_right _ _).trans (by linarith)

theorem timedScale_of_mem {scale : ℝ} (low : 0.05 ≤ scale) (high : scale ≤ 1) :
    timedScale scale = scale := by
  rw [timedScale, min_eq_right high, max_eq_right low]

/-! ## Times -/

section

variable {m : ArmModel ℝ} {a b c : JointPair ℝ}

/-- The time is that of the way at the speed of the arm, or the least time. -/
theorem motionTime_real (m : ArmModel ℝ) (a b : JointPair ℝ) (scale : ℝ) :
    motionTime m a b scale = max (a.way b / (m.maxSpeed * timedScale scale)) 0.08 := by
  have order : (0.05 : ℝ) ≤ 1.0 := by norm_num
  have clamped : Scalar.clamp (0.05 : ℝ) 1.0 scale = timedScale scale := by
    rw [Scalar.clamp_real order, Scalar.one_real, timedScale]
  have formula : motionTime m a b scale =
      Scalar.maxNum (Scalar.maxNum (Scalar.abs (b.shoulder - a.shoulder))
        (Scalar.abs (b.elbow - a.elbow)) / (m.maxSpeed * Scalar.clamp (0.05 : ℝ) 1.0 scale)) 0.08 :=
    rfl
  rw [formula, clamped, Scalar.maxNum_real, Scalar.maxNum_real, Scalar.abs_real, Scalar.abs_real]
  rfl

theorem minMotionTime_le (m : ArmModel ℝ) (a b : JointPair ℝ) (scale : ℝ) :
    0.08 ≤ motionTime m a b scale := by
  rw [motionTime_real]
  exact le_max_right _ _

theorem motionTime_comm (m : ArmModel ℝ) (a b : JointPair ℝ) (scale : ℝ) :
    motionTime m b a scale = motionTime m a b scale := by
  rw [motionTime_real, motionTime_real, JointPair.way_comm]

theorem ArmModel.Accepted.speed (accepted : m.Accepted) : 0 < m.maxSpeed :=
  (accepted_real.1 accepted).2.2.2.2

theorem speed_pos (accepted : m.Accepted) (scale : ℝ) : 0 < m.maxSpeed * timedScale scale :=
  mul_pos accepted.speed (timedScale_pos scale)

/-- The floor below the way there stands below a part of the detour too. -/
theorem motionTime_triangle (accepted : m.Accepted) (a b c : JointPair ℝ) (scale : ℝ) :
    motionTime m a c scale ≤ motionTime m a b scale + motionTime m b c scale := by
  have pace := speed_pos accepted scale
  have rest : 0 ≤ motionTime m b c scale := (motionTime_pos m b c scale).le
  have first : a.way b / (m.maxSpeed * timedScale scale) ≤ motionTime m a b scale := by
    rw [motionTime_real]
    exact le_max_left _ _
  have second : b.way c / (m.maxSpeed * timedScale scale) ≤ motionTime m b c scale := by
    rw [motionTime_real]
    exact le_max_left _ _
  have detour : a.way c / (m.maxSpeed * timedScale scale) ≤
      a.way b / (m.maxSpeed * timedScale scale) + b.way c / (m.maxSpeed * timedScale scale) := by
    rw [← add_div]
    exact div_le_div_of_nonneg_right (a.way_triangle b c) pace.le
  rw [motionTime_real m a c]
  refine max_le (detour.trans (add_le_add first second)) ?_
  exact (minMotionTime_le m a b scale).trans (le_add_of_nonneg_right rest)

theorem motionTime_antitone (accepted : m.Accepted) (a b : JointPair ℝ) {slow fast : ℝ}
    (order : slow ≤ fast) : motionTime m a b fast ≤ motionTime m a b slow := by
  have pace : m.maxSpeed * timedScale slow ≤ m.maxSpeed * timedScale fast :=
    mul_le_mul_of_nonneg_left (timedScale_mono order) accepted.speed.le
  rw [motionTime_real, motionTime_real]
  exact max_le_max
    (div_le_div_of_nonneg_left (a.way_nonneg b) (speed_pos accepted slow) pace) le_rfl

/-- At half the scale a motion takes at most twice the time. -/
theorem motionTime_half_le (accepted : m.Accepted) (a b : JointPair ℝ) (scale : ℝ) :
    motionTime m a b (scale / 2) ≤ 2 * motionTime m a b scale := by
  have pace : m.maxSpeed * timedScale scale ≤ 2 * (m.maxSpeed * timedScale (scale / 2)) := by
    rw [mul_left_comm]
    exact mul_le_mul_of_nonneg_left (timedScale_half_le scale) accepted.speed.le
  have slow : a.way b / (m.maxSpeed * timedScale (scale / 2)) ≤
      2 * (a.way b / (m.maxSpeed * timedScale scale)) := by
    rw [← mul_div_assoc, div_le_div_iff₀ (speed_pos accepted _) (speed_pos accepted _),
      mul_comm 2, mul_assoc]
    exact mul_le_mul_of_nonneg_left pace (a.way_nonneg b)
  have fast : a.way b / (m.maxSpeed * timedScale scale) ≤ motionTime m a b scale := by
    rw [motionTime_real]
    exact le_max_left _ _
  have least := minMotionTime_le m a b scale
  rw [motionTime_real m a b (scale / 2)]
  exact max_le (slow.trans (by linarith)) (by linarith)

/-- It takes exactly twice the time if neither scale is brought into its bounds and the floor plays
no part. -/
theorem motionTime_half_eq (accepted : m.Accepted) {scale : ℝ} (low : 0.05 ≤ scale / 2)
    (high : scale ≤ 1) (long : 0.08 < motionTime m a b scale) :
    motionTime m a b (scale / 2) = 2 * motionTime m a b scale := by
  have positive : 0 < scale := by linarith
  have speed := accepted.speed
  have half : timedScale (scale / 2) = scale / 2 := timedScale_of_mem low (by linarith)
  have whole : timedScale scale = scale := timedScale_of_mem (by linarith) high
  have time : motionTime m a b scale = max (a.way b / (m.maxSpeed * scale)) 0.08 := by
    rw [motionTime_real, whole]
  have above : 0.08 < a.way b / (m.maxSpeed * scale) :=
    (lt_max_iff.1 (time ▸ long)).resolve_right (lt_irrefl _)
  have twice : a.way b / (m.maxSpeed * (scale / 2)) = 2 * (a.way b / (m.maxSpeed * scale)) := by
    field_simp
  rw [motionTime_real, half, twice, time, max_eq_left above.le, max_eq_left (by linarith)]

/-- The laws of the time of a motion, for an accepted arm, all pairs of angles, and speed scales of
which the second is no less than the first. -/
theorem motion_time_laws (accepted : m.Accepted) (a b c : JointPair ℝ) {slow fast : ℝ}
    (order : slow ≤ fast) :
    0.08 ≤ motionTime m a b slow ∧
    motionTime m b a slow = motionTime m a b slow ∧
    motionTime m a c slow ≤ motionTime m a b slow + motionTime m b c slow ∧
    motionTime m a b fast ≤ motionTime m a b slow ∧
    ∀ scale, motionTime m a b (scale / 2) ≤ 2 * motionTime m a b scale ∧
      (0.05 ≤ scale / 2 → scale ≤ 1 → 0.08 < motionTime m a b scale →
        motionTime m a b (scale / 2) = 2 * motionTime m a b scale) :=
  ⟨minMotionTime_le m a b slow, motionTime_comm m a b slow, motionTime_triangle accepted a b c slow,
    motionTime_antitone accepted a b order, fun scale => ⟨motionTime_half_le accepted a b scale,
      motionTime_half_eq accepted⟩⟩

end

/-- Half a turn of the standard arm takes exactly twice the time at half the speed, and no more than
the two quarters it can be parted into. -/
theorem motion_time_laws_turn :
    let m : ArmModel ℝ := .standard
    let turn := motionTime m ⟨0, 0⟩ ⟨Real.pi, 0⟩
    m.Accepted ∧ (1 / 2 : ℝ) ≤ 1 ∧
      turn (1 / 2) ≤ motionTime m ⟨0, 0⟩ ⟨Real.pi / 2, 0⟩ (1 / 2) +
        motionTime m ⟨Real.pi / 2, 0⟩ ⟨Real.pi, 0⟩ (1 / 2) ∧
      turn 1 ≤ turn (1 / 2) ∧ turn (1 / 2) = 2 * turn 1 := by
  intro m turn
  have accepted : m.Accepted := ArmModel.accepted_standard
  have order : (1 / 2 : ℝ) ≤ 1 := by norm_num
  have long : 0.08 < turn 1 := by
    have half : (0.08 : ℝ) < Real.pi / (2.0 * 1) := by
      rw [lt_div_iff₀ (by norm_num)]
      linarith [Real.two_le_pi]
    have way : JointPair.way ⟨0, 0⟩ ⟨Real.pi, 0⟩ = Real.pi := by
      rw [JointPair.way, sub_zero, sub_self, abs_zero, abs_of_pos Real.pi_pos]
      exact max_eq_left Real.pi_pos.le
    have time : turn 1 = max (Real.pi / (2.0 * timedScale 1)) 0.08 := by
      rw [← way]
      exact motionTime_real m _ _ 1
    rw [time, timedScale_of_mem (by norm_num) le_rfl]
    exact lt_max_of_lt_left half
  obtain ⟨-, -, -, faster, halves⟩ :=
    motion_time_laws accepted ⟨0, 0⟩ ⟨Real.pi, 0⟩ ⟨Real.pi, 0⟩ order
  obtain ⟨-, -, parted, -⟩ :=
    motion_time_laws accepted ⟨0, 0⟩ ⟨Real.pi / 2, 0⟩ ⟨Real.pi, 0⟩ order
  exact ⟨accepted, order, parted, faster, (halves 1).2 (by norm_num) le_rfl long⟩

end PlanarArm
