import PlanarArm.Proofs.Arm.Direction
import PlanarArm.Proofs.Arm.Model

/-!
# Joint angles for a point

By the law of cosines the distance of a point from the base decides how far the elbow has to turn,
up to its sense: the two branches (`branchAngles`) turn it by the same angle in either sense. A
cosine that is too great or too small by less than the snapping width still counts as the edge of
the ring, so a point is refused as unreachable exactly from there on (`snapCosine_mem_iff`,
`ring_iff`). Both branches point at the target, and their hands are as far from the base as the
target is, but for the snapping (`reaches_branchAngles`).

* `inverse_real`: which branch is returned, in terms of the two and the joint ranges.
* `inverse_correct`: all of it together, for every accepted arm and every target.
-/

namespace PlanarArm

/-! ## The cosine of the elbow -/

theorem snapCosine_real (c : ℝ) :
    snapCosine c = if |c - 1| < 1e-9 then 1 else if |c + 1| < 1e-9 then -1 else c := by
  have formula : snapCosine c =
      if Scalar.abs (c - (1.0 : ℝ)) < (1e-9 : ℝ) then (1.0 : ℝ)
      else if Scalar.abs (c + (1.0 : ℝ)) < (1e-9 : ℝ) then (-1.0 : ℝ) else c := rfl
  rw [formula, Scalar.abs_real, Scalar.abs_real, Scalar.one_real]

theorem snapCosine_of_far {c : ℝ} (straight : 1e-9 ≤ |c - 1|) (folded : 1e-9 ≤ |c + 1|) :
    snapCosine c = c := by
  rw [snapCosine_real, if_neg (not_lt.2 straight), if_neg (not_lt.2 folded)]

theorem snapCosine_of_straight {c : ℝ} (straight : |c - 1| < 1e-9) : snapCosine c = 1 := by
  rw [snapCosine_real, if_pos straight]

theorem snapCosine_of_folded {c : ℝ} (folded : |c + 1| < 1e-9) : snapCosine c = -1 := by
  have other : ¬|c - 1| < 1e-9 := by
    rw [abs_lt] at folded ⊢
    intro straight
    linarith [folded.2, straight.1]
  rw [snapCosine_real, if_neg other, if_pos folded]

theorem abs_snapCosine_sub_lt (c : ℝ) : |snapCosine c - c| < 1e-9 := by
  by_cases straight : |c - 1| < 1e-9
  · rwa [snapCosine_of_straight straight, abs_sub_comm]
  · by_cases folded : |c + 1| < 1e-9
    · rwa [snapCosine_of_folded folded, abs_sub_comm, sub_neg_eq_add]
    · rw [snapCosine_of_far (not_lt.1 straight) (not_lt.1 folded), sub_self, abs_zero]
      norm_num

/-- A cosine is one of an angle, after snapping, unless it is off by the snapping width. -/
theorem snapCosine_mem_iff (c : ℝ) :
    snapCosine c ∈ Set.Icc (-1) 1 ↔ c < 1 + 1e-9 ∧ -1 - 1e-9 < c := by
  by_cases straight : |c - 1| < 1e-9
  · rw [snapCosine_of_straight straight]
    rw [abs_lt] at straight
    exact iff_of_true (by norm_num) ⟨by linarith, by linarith⟩
  · by_cases folded : |c + 1| < 1e-9
    · rw [snapCosine_of_folded folded]
      rw [abs_lt] at folded
      exact iff_of_true (by norm_num) ⟨by linarith, by linarith⟩
    · rw [not_lt] at straight folded
      rw [snapCosine_of_far straight folded]
      rw [le_abs] at straight folded
      constructor
      · rintro ⟨low, high⟩
        exact ⟨by linarith, by linarith⟩
      · rintro ⟨high, low⟩
        constructor
        · rcases folded with above | below <;> linarith
        · rcases straight with above | below <;> linarith

section

variable {m : ArmModel ℝ} {target : Point ℝ}

theorem elbowCosine_real (m : ArmModel ℝ) (target : Point ℝ) :
    elbowCosine m target =
      (target.norm ^ 2 - m.link1 ^ 2 - m.link2 ^ 2) / (2 * m.link1 * m.link2) := by
  have formula : elbowCosine m target =
      (target.x * target.x + target.y * target.y - m.link1 * m.link1 - m.link2 * m.link2) /
        ((2.0 : ℝ) * m.link1 * m.link2) := rfl
  rw [formula, Point.norm_sq]
  norm_num [sq]

/-- The law of cosines. -/
theorem norm_sq_eq (links : 0 < m.link1 ∧ 0 < m.link2) (target : Point ℝ) :
    target.norm ^ 2 =
      m.link1 ^ 2 + m.link2 ^ 2 + 2 * m.link1 * m.link2 * elbowCosine m target := by
  have first := links.1.ne'
  have second := links.2.ne'
  rw [elbowCosine_real]
  field_simp
  ring

/-- The snapped cosine is one of an angle exactly on the ring that the hand can reach, widened by
the snapping. -/
theorem ring_iff (links : 0 < m.link1 ∧ 0 < m.link2) (target : Point ℝ) :
    snapCosine (elbowCosine m target) ∈ Set.Icc (-1) 1 ↔
      target.norm ^ 2 < (m.link1 + m.link2) ^ 2 + 2 * m.link1 * m.link2 * 1e-9 ∧
        (m.link1 - m.link2) ^ 2 - 2 * m.link1 * m.link2 * 1e-9 < target.norm ^ 2 := by
  have scale : 0 < 2 * m.link1 * m.link2 := mul_pos (mul_pos two_pos links.1) links.2
  have outer : (m.link1 + m.link2) ^ 2 + 2 * m.link1 * m.link2 * 1e-9 =
      m.link1 ^ 2 + m.link2 ^ 2 + 2 * m.link1 * m.link2 * (1 + 1e-9) := by ring
  have inner : (m.link1 - m.link2) ^ 2 - 2 * m.link1 * m.link2 * 1e-9 =
      m.link1 ^ 2 + m.link2 ^ 2 + 2 * m.link1 * m.link2 * (-1 - 1e-9) := by ring
  rw [snapCosine_mem_iff, norm_sq_eq links, outer, inner, add_lt_add_iff_left, add_lt_add_iff_left,
    mul_lt_mul_iff_right₀ scale, mul_lt_mul_iff_right₀ scale]

/-! ## The two branches -/

/-- The angle by which the elbow turns for a target, before it is wrapped: in the positive sense if
the elbow is up, and in the negative sense if it is down. -/
noncomputable def elbowTurn (m : ArmModel ℝ) (target : Point ℝ) : Branch → ℝ
  | .elbowUp => Real.arccos (snapCosine (elbowCosine m target))
  | .elbowDown => -Real.arccos (snapCosine (elbowCosine m target))

/-- The joint angles of a branch for a target. -/
noncomputable def branchAngles (m : ArmModel ℝ) (target : Point ℝ) (branch : Branch) :
    JointPair ℝ :=
  aimed m target (elbowTurn m target branch)

theorem cos_elbowTurn (within : snapCosine (elbowCosine m target) ∈ Set.Icc (-1) 1)
    (branch : Branch) :
    Real.cos (elbowTurn m target branch) = snapCosine (elbowCosine m target) := by
  have cosine := Real.cos_arccos within.1 within.2
  cases branch with
  | elbowUp => exact cosine
  | elbowDown => exact (Real.cos_neg _).trans cosine

theorem sqrt_eq_sin_arccos {c : ℝ} (within : c ∈ Set.Icc (-1) 1) :
    Scalar.sqrt (Scalar.maxNum (1.0 - c * c) 0.0) = Real.sin (Real.arccos c) := by
  have positive : 0 ≤ 1 - c * c := by nlinarith [within.1, within.2]
  rw [Scalar.maxNum_real, Scalar.zero_real, Scalar.one_real, max_eq_left positive,
    Real.sin_arccos, sq]
  rfl

theorem inverse_real (m : ArmModel ℝ) (target : Point ℝ) :
    inverse m target =
      if snapCosine (elbowCosine m target) ∈ Set.Icc (-1) 1 then
        if m.allows (branchAngles m target .elbowDown) then
          .ok ⟨branchAngles m target .elbowDown, branchAngles m target .elbowUp, .elbowDown⟩
        else if m.allows (branchAngles m target .elbowUp) then
          .ok ⟨branchAngles m target .elbowUp, branchAngles m target .elbowDown, .elbowUp⟩
        else .error (.jointLimits target)
      else .error (.unreachable target) := by
  unfold branchAngles elbowTurn inverse
  dsimp only
  generalize snapCosine (elbowCosine m target) = c
  have ring : (decide ((-1.0 : ℝ) ≤ c) && decide (c ≤ (1.0 : ℝ))) = true ↔
      c ∈ Set.Icc (-1) 1 := by
    rw [Bool.and_eq_true, decide_eq_true_iff, decide_eq_true_iff, Scalar.one_real]
    rfl
  by_cases within : c ∈ Set.Icc (-1 : ℝ) 1
  · -- Folded, the two branches turn the elbow by half a turn in either sense, which is the same
    -- direction but not the same number.
    have up := atan2_coe (Real.arccos c)
    have down := atan2_coe (-Real.arccos c)
    rw [Real.sin_neg, Real.cos_neg] at down
    rw [Real.cos_arccos within.1 within.2, ← sqrt_eq_sin_arccos within] at up down
    rw [if_pos (ring.2 within), if_pos within, aimed_congr up, aimed_congr down]
  · rw [if_neg (mt ring.1 within), if_neg within]

theorem inverse_unreachable_iff (m : ArmModel ℝ) (target : Point ℝ) :
    inverse m target = .error (.unreachable target) ↔
      snapCosine (elbowCosine m target) ∉ Set.Icc (-1) 1 := by
  rw [inverse_real]
  split
  · next within =>
    refine iff_of_false ?_ (not_not_intro within)
    split
    · exact nofun
    · split <;> exact nofun
  · next outside => exact iff_of_true rfl outside

theorem inverse_of_mem (within : snapCosine (elbowCosine m target) ∈ Set.Icc (-1) 1) :
    inverse m target =
      if m.allows (branchAngles m target .elbowDown) then
        .ok ⟨branchAngles m target .elbowDown, branchAngles m target .elbowUp, .elbowDown⟩
      else if m.allows (branchAngles m target .elbowUp) then
        .ok ⟨branchAngles m target .elbowUp, branchAngles m target .elbowDown, .elbowUp⟩
      else .error (.jointLimits target) := by
  rw [inverse_real, if_pos within]

/-- Angles that are returned lie in the joint ranges. -/
theorem allows_of_inverse {α : Type} [Scalar α] {m : ArmModel α} {target : Point α}
    {solution : Solution α} (solved : inverse m target = .ok solution) :
    m.allows solution.angles = true := by
  unfold inverse at solved
  dsimp only at solved
  split at solved
  · split at solved
    · next down =>
      cases solved
      exact down
    · split at solved
      · next up =>
        cases solved
        exact up
      · cases solved
  · cases solved

/-! ## Where the branches put the hand -/

/-- The angles bring the hand to a target as well as an arm with these links can. -/
structure Reaches (m : ArmModel ℝ) (target : Point ℝ) (q : JointPair ℝ) : Prop where
  shoulder : q.shoulder ∈ Set.Ioc (-Real.pi) Real.pi
  elbow : q.elbow ∈ Set.Ioc (-Real.pi) Real.pi
  /-- The hand is on the ray from the base through the target. -/
  ray : target ≠ .origin → ∃ k, 0 ≤ k ∧
    (forward m q).hand.x = k * target.x ∧ (forward m q).hand.y = k * target.y
  /-- Its distance from the base is the target's, but for the snapping. -/
  near : |(forward m q).hand.norm ^ 2 - target.norm ^ 2| < 2 * m.link1 * m.link2 * 1e-9
  /-- Where nothing is snapped, the distance is exact. -/
  exact_of_far : 1e-9 ≤ |elbowCosine m target - 1| → 1e-9 ≤ |elbowCosine m target + 1| →
    (forward m q).hand.norm = target.norm

/-- The squared distances differ as the snapped cosine and the cosine do. -/
theorem norm_sq_sub (links : 0 < m.link1 ∧ 0 < m.link2)
    (within : snapCosine (elbowCosine m target) ∈ Set.Icc (-1) 1) (branch : Branch) :
    (forward m (branchAngles m target branch)).hand.norm ^ 2 - target.norm ^ 2 =
      2 * m.link1 * m.link2 * (snapCosine (elbowCosine m target) - elbowCosine m target) := by
  rw [branchAngles, norm_aimed, cos_elbowTurn within, norm_sq_eq links target]
  ring

theorem hand_on_ray (off : target ≠ .origin) (elbow : ℝ) :
    ∃ k, 0 ≤ k ∧ (forward m (aimed m target elbow)).hand.x = k * target.x ∧
      (forward m (aimed m target elbow)).hand.y = k * target.y := by
  have length : ‖target.toComplex‖ ≠ 0 :=
    norm_ne_zero_iff.2 (mt Point.toComplex_eq_zero_iff.1 off)
  have hand := hand_aimed m target elbow
  have aim : (‖target.toComplex‖ : ℂ) * (target.bearing : Real.Angle).toCircle = target.toComplex :=
    norm_mul_toCircle_arg target.toComplex
  have scaled : (forward m (aimed m target elbow)).hand.toComplex =
      ((‖m.span elbow‖ / ‖target.toComplex‖ : ℝ) : ℂ) * target.toComplex := by
    rw [hand, Complex.ofReal_div, div_mul_eq_mul_div, eq_div_iff (Complex.ofReal_ne_zero.2 length),
      mul_assoc, mul_comm _ (‖target.toComplex‖ : ℂ), aim]
  refine ⟨‖m.span elbow‖ / ‖target.toComplex‖, by positivity, ?_, ?_⟩
  · exact (congrArg Complex.re scaled).trans (Complex.re_ofReal_mul _ _)
  · exact (congrArg Complex.im scaled).trans (Complex.im_ofReal_mul _ _)

theorem reaches_branchAngles (links : 0 < m.link1 ∧ 0 < m.link2)
    (within : snapCosine (elbowCosine m target) ∈ Set.Icc (-1) 1) (branch : Branch) :
    Reaches m target (branchAngles m target branch) := by
  have gap := norm_sq_sub links within branch
  have scale : 0 < 2 * m.link1 * m.link2 := mul_pos (mul_pos two_pos links.1) links.2
  have wrapped : branchAngles m target branch = _ := aimed_real m target _
  refine ⟨?_, ?_, fun off => hand_on_ray off _, ?_, fun straight folded => ?_⟩
  · rw [wrapped]
    exact wrapAngle_mem _
  · rw [wrapped]
    exact wrapAngle_mem _
  · rw [gap, abs_mul, abs_of_pos scale]
    exact mul_lt_mul_of_pos_left (abs_snapCosine_sub_lt _) scale
  · rw [snapCosine_of_far straight folded, sub_self, mul_zero, sub_eq_zero] at gap
    exact (sq_eq_sq₀ (Point.zero_le_norm _) (Point.zero_le_norm _)).1 gap

end

/-! ## Correctness -/

/-- A target is refused as unreachable exactly outside the ring of the arm, widened by the
snapping. On the ring both branches reach it. The one with the elbow down is returned if the joint
ranges allow it, the other one if they allow only that, and an error if they allow neither. Angles
that are returned lie in the joint ranges. -/
theorem inverse_correct (m : ArmModel ℝ) (accepted : m.Accepted) (target : Point ℝ) :
    let margin := 2 * m.link1 * m.link2 * 1e-9
    let down := branchAngles m target .elbowDown
    let up := branchAngles m target .elbowUp
    (inverse m target = .error (.unreachable target) ↔
      (m.link1 + m.link2) ^ 2 + margin ≤ target.norm ^ 2 ∨
        target.norm ^ 2 ≤ (m.link1 - m.link2) ^ 2 - margin) ∧
    (inverse m target ≠ .error (.unreachable target) →
      Reaches m target down ∧ Reaches m target up ∧
      (inverse m target = .ok ⟨down, up, .elbowDown⟩ ↔ m.allows down) ∧
      (inverse m target = .ok ⟨up, down, .elbowUp⟩ ↔ m.allows up ∧ ¬m.allows down) ∧
      (inverse m target = .error (.jointLimits target) ↔ ¬m.allows up ∧ ¬m.allows down)) ∧
    ∀ solution, inverse m target = .ok solution → m.allows solution.angles := by
  intro margin down up
  have links := accepted.links
  refine ⟨?_, fun reachable => ?_, fun solution => allows_of_inverse⟩
  · rw [inverse_unreachable_iff, ring_iff links, not_and_or, not_lt, not_lt]
  · have within := not_not.1 (mt (inverse_unreachable_iff m target).2 reachable)
    have found : inverse m target = if m.allows down then .ok ⟨down, up, .elbowDown⟩
        else if m.allows up then .ok ⟨up, down, .elbowUp⟩ else .error (.jointLimits target) :=
      inverse_of_mem within
    refine ⟨reaches_branchAngles links within _, reaches_branchAngles links within _, ?_⟩
    rw [found]
    cases m.allows down <;> cases m.allows up <;> simp

/-- The standard arm does not reach two metres, but a point that is beyond its reach by a tenth of a
nanometre still counts as reached, by both branches. -/
theorem inverse_correct_standard :
    (ArmModel.standard : ArmModel ℝ).Accepted ∧
      inverse (.standard : ArmModel ℝ) ⟨2, 0⟩ = .error (.unreachable ⟨2, 0⟩) ∧
      Reaches .standard ⟨1.7500000001, 0⟩
        (branchAngles .standard ⟨1.7500000001, 0⟩ .elbowDown) ∧
      Reaches .standard ⟨1.7500000001, 0⟩
        (branchAngles .standard ⟨1.7500000001, 0⟩ .elbowUp) := by
  have accepted := ArmModel.accepted_standard
  have links : (ArmModel.standard : ArmModel ℝ).link1 = 1 ∧
      (ArmModel.standard : ArmModel ℝ).link2 = 3 / 4 := by
    constructor <;> norm_num [ArmModel.standard]
  have far := (inverse_correct .standard accepted ⟨2, 0⟩).1
  obtain ⟨edge, reached, -⟩ := inverse_correct .standard accepted ⟨1.7500000001, 0⟩
  rw [links.1, links.2, Point.norm_sq] at far edge
  have beyond := far.2 (.inl (by norm_num))
  have within := mt edge.1 (by norm_num)
  exact ⟨accepted, beyond, (reached within).1, (reached within).2.1⟩

end PlanarArm
