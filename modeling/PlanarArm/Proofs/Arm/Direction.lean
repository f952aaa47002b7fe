import Mathlib.Analysis.SpecialFunctions.Complex.Circle
import PlanarArm.Arm.Kinematics
import PlanarArm.Proofs.Scalar.Real

/-!
# Directions in the plane

Points are read as complex numbers and angles up to whole turns as unit complex numbers, so that a
joint turns what lies behind it by a multiplication. `ArmModel.span` is the hand as it is seen from
the first link: it depends on the elbow alone, and the shoulder turns it (`forward_hand`).

* `wrapAngle_coe`, `wrapAngle_mem`: a wrapped angle is the same direction, in `(-π, π]`.
* `hand_aimed`: angles that are aimed at a point put the hand on the ray through it, as far out as
  the elbow stretches the arm (`norm_aimed`).
-/

namespace PlanarArm

/-! ## Wrapping -/

theorem Scalar.fullTurn_real : (Scalar.fullTurn : ℝ) = 2 * Real.pi := by
  have formula : (Scalar.fullTurn : ℝ) = (2.0 : ℝ) * Real.pi := rfl
  rw [formula]
  norm_num

theorem wrapAngle_formula (angle : ℝ) : wrapAngle angle =
    let rest := angle - 2 * Real.pi * ⌊angle / (2 * Real.pi)⌋
    if Real.pi < rest then rest - 2 * Real.pi else rest := by
  rw [← Scalar.fullTurn_real]
  rfl

/-- Wrapping takes away whole turns only. -/
theorem wrapAngle_coe (angle : ℝ) : ((wrapAngle angle : ℝ) : Real.Angle) = angle := by
  have turns : ((angle - 2 * Real.pi * ⌊angle / (2 * Real.pi)⌋ : ℝ) : Real.Angle) = angle := by
    rw [Real.Angle.angle_eq_iff_two_pi_dvd_sub]
    refine ⟨-⌊angle / (2 * Real.pi)⌋, ?_⟩
    push_cast
    ring
  rw [wrapAngle_formula]
  dsimp only
  split
  · rw [Real.Angle.coe_sub, Real.Angle.coe_two_pi, sub_zero, turns]
  · exact turns

theorem wrapAngle_mem (angle : ℝ) : wrapAngle angle ∈ Set.Ioc (-Real.pi) Real.pi := by
  have positive : 0 < 2 * Real.pi := Real.two_pi_pos
  have low := Int.floor_le (angle / (2 * Real.pi))
  have high := Int.lt_floor_add_one (angle / (2 * Real.pi))
  rw [le_div_iff₀ positive] at low
  rw [div_lt_iff₀ positive] at high
  rw [wrapAngle_formula]
  dsimp only
  split
  · constructor <;> linarith
  · constructor <;> linarith

theorem wrapAngle_eq_toReal (angle : ℝ) : wrapAngle angle = (angle : Real.Angle).toReal := by
  rw [← wrapAngle_coe, Real.Angle.toReal_coe_eq_self_iff_mem_Ioc.2 (wrapAngle_mem angle)]

theorem wrapAngle_congr {a b : ℝ} (same : (a : Real.Angle) = b) : wrapAngle a = wrapAngle b := by
  rw [wrapAngle_eq_toReal, wrapAngle_eq_toReal, same]

theorem wrapAngle_of_mem {angle : ℝ} (within : angle ∈ Set.Ioc (-Real.pi) Real.pi) :
    wrapAngle angle = angle := by
  rw [wrapAngle_eq_toReal, Real.Angle.toReal_coe_eq_self_iff_mem_Ioc.2 within]

/-! ## Points as complex numbers -/

/-- The point as a complex number. -/
def Point.toComplex (p : Point ℝ) : ℂ :=
  ⟨p.x, p.y⟩

/-- The angle of the ray from the base through the point. -/
noncomputable def Point.bearing (p : Point ℝ) : ℝ :=
  p.toComplex.arg

theorem Point.norm_real (p : Point ℝ) : p.norm = ‖p.toComplex‖ := by
  rw [Complex.norm_def, Complex.normSq_apply]
  rfl

theorem Point.norm_sq (p : Point ℝ) : p.norm ^ 2 = p.x * p.x + p.y * p.y := by
  rw [Point.norm_real, ← Complex.normSq_eq_norm_sq, Complex.normSq_apply]
  rfl

theorem Point.zero_le_norm (p : Point ℝ) : 0 ≤ p.norm := by
  rw [Point.norm_real]
  exact norm_nonneg _

theorem Point.toComplex_eq_zero_iff {p : Point ℝ} : p.toComplex = 0 ↔ p = .origin := by
  obtain ⟨x, y⟩ := p
  have formula : (Point.origin : Point ℝ) = ⟨(0.0 : ℝ), (0.0 : ℝ)⟩ := rfl
  rw [formula, Scalar.zero_real, Complex.ext_iff]
  simp [toComplex]

/-! ## Directions as unit complex numbers -/

theorem re_toCircle (direction : Real.Angle) : (direction.toCircle : ℂ).re = direction.cos := by
  simp [Real.Angle.coe_toCircle]

theorem im_toCircle (direction : Real.Angle) : (direction.toCircle : ℂ).im = direction.sin := by
  simp [Real.Angle.coe_toCircle]

theorem norm_mul_toCircle_arg (z : ℂ) : (‖z‖ : ℂ) * (z.arg : Real.Angle).toCircle = z := by
  rw [Real.Angle.toCircle_coe, Circle.coe_exp]
  exact Complex.norm_mul_exp_arg_mul_I z

theorem arg_toCircle_mul (direction : Real.Angle) {z : ℂ} (nonzero : z ≠ 0) :
    ((direction.toCircle * z).arg : Real.Angle) = direction + z.arg := by
  rw [Complex.arg_mul_coe_angle (Circle.coe_ne_zero _) nonzero, Real.Angle.arg_toCircle]

theorem atan2_coe (angle : ℝ) :
    ((Scalar.atan2 (Real.sin angle) (Real.cos angle) : ℝ) : Real.Angle) = angle := by
  have polar : (⟨Real.cos angle, Real.sin angle⟩ : ℂ) =
      (angle : Real.Angle).cos + (angle : Real.Angle).sin * Complex.I := by
    rw [Complex.mk_eq_add_mul_I, Real.Angle.cos_coe, Real.Angle.sin_coe]
  have formula : Scalar.atan2 (Real.sin angle) (Real.cos angle) =
      Complex.arg ⟨Real.cos angle, Real.sin angle⟩ := rfl
  rw [formula, polar, Complex.arg_cos_add_sin_mul_I_coe_angle]

/-! ## The hand -/

/-- Where the hand is for a direction of the second link while the first one lies along the axis of
abscissas. -/
noncomputable def ArmModel.span (m : ArmModel ℝ) (elbow : Real.Angle) : ℂ :=
  m.link1 + m.link2 * elbow.toCircle

theorem ArmModel.normSq_span (m : ArmModel ℝ) (elbow : Real.Angle) :
    Complex.normSq (m.span elbow) =
      m.link1 ^ 2 + m.link2 ^ 2 + 2 * m.link1 * m.link2 * elbow.cos := by
  have unit := elbow.cos_sq_add_sin_sq
  rw [span, Complex.normSq_apply]
  simp [re_toCircle, im_toCircle]
  linear_combination m.link2 ^ 2 * unit

theorem forward_hand (m : ArmModel ℝ) (q : JointPair ℝ) :
    (forward m q).hand.toComplex = (q.shoulder : Real.Angle).toCircle * m.span q.elbow := by
  have hand : (forward m q).hand.toComplex =
      ⟨m.link1 * Real.cos q.shoulder + m.link2 * Real.cos (q.shoulder + q.elbow),
        m.link1 * Real.sin q.shoulder + m.link2 * Real.sin (q.shoulder + q.elbow)⟩ := rfl
  have heading : ((q.shoulder : Real.Angle).toCircle : ℂ) * (q.elbow : Real.Angle).toCircle =
      ((q.shoulder + q.elbow : ℝ) : Real.Angle).toCircle := by
    rw [Real.Angle.coe_add, Real.Angle.toCircle_add, Circle.coe_mul]
  rw [hand, ArmModel.span, mul_add, mul_left_comm, heading]
  apply Complex.ext
  · rw [mul_comm _ (m.link1 : ℂ), Complex.add_re, Complex.re_ofReal_mul, Complex.re_ofReal_mul,
      re_toCircle, re_toCircle, Real.Angle.cos_coe, Real.Angle.cos_coe]
  · rw [mul_comm _ (m.link1 : ℂ), Complex.add_im, Complex.im_ofReal_mul, Complex.im_ofReal_mul,
      im_toCircle, im_toCircle, Real.Angle.sin_coe, Real.Angle.sin_coe]

theorem norm_hand (m : ArmModel ℝ) (q : JointPair ℝ) :
    (forward m q).hand.norm ^ 2 =
      m.link1 ^ 2 + m.link2 ^ 2 + 2 * m.link1 * m.link2 * Real.cos q.elbow := by
  rw [Point.norm_real, forward_hand, norm_mul, Circle.norm_coe, one_mul,
    ← Complex.normSq_eq_norm_sq, ArmModel.normSq_span, Real.Angle.cos_coe]

/-! ## Aiming -/

theorem aimed_real (m : ArmModel ℝ) (target : Point ℝ) (elbow : ℝ) :
    aimed m target elbow =
      ⟨wrapAngle (target.bearing - (m.span elbow).arg), wrapAngle elbow⟩ := by
  have span : m.span elbow = ⟨m.link1 + m.link2 * Real.cos elbow, m.link2 * Real.sin elbow⟩ := by
    apply Complex.ext <;> simp [ArmModel.span]
  rw [span]
  rfl

/-- Only the direction of the second link counts. -/
theorem aimed_congr {m : ArmModel ℝ} {target : Point ℝ} {a b : ℝ} (same : (a : Real.Angle) = b) :
    aimed m target a = aimed m target b := by
  rw [aimed_real, aimed_real, same, wrapAngle_congr same]

theorem hand_aimed (m : ArmModel ℝ) (target : Point ℝ) (elbow : ℝ) :
    (forward m (aimed m target elbow)).hand.toComplex =
      ‖m.span elbow‖ * (target.bearing : Real.Angle).toCircle := by
  have stretch := norm_mul_toCircle_arg (m.span elbow)
  have turned : ((target.bearing - (m.span elbow).arg : ℝ) : Real.Angle).toCircle *
      ((m.span elbow).arg : Real.Angle).toCircle = (target.bearing : Real.Angle).toCircle := by
    rw [← Real.Angle.toCircle_add, ← Real.Angle.coe_add, sub_add_cancel]
  rw [forward_hand, aimed_real, wrapAngle_coe, wrapAngle_coe, ← turned, Circle.coe_mul]
  nth_rewrite 2 [← stretch]
  ring

theorem norm_aimed (m : ArmModel ℝ) (target : Point ℝ) (elbow : ℝ) :
    (forward m (aimed m target elbow)).hand.norm ^ 2 =
      m.link1 ^ 2 + m.link2 ^ 2 + 2 * m.link1 * m.link2 * Real.cos elbow := by
  rw [norm_hand, aimed_real, ← Real.Angle.cos_coe, wrapAngle_coe, Real.Angle.cos_coe]

theorem bearing_hand {m : ArmModel ℝ} {q : JointPair ℝ} (off : (forward m q).hand ≠ .origin) :
    ((forward m q).hand.bearing : Real.Angle) = q.shoulder + (m.span q.elbow).arg := by
  have nonzero := mt Point.toComplex_eq_zero_iff.1 off
  rw [forward_hand] at nonzero
  rw [Point.bearing, forward_hand, arg_toCircle_mul _ (right_ne_zero_of_mul nonzero)]

end PlanarArm
