import Mathlib.Analysis.Real.Pi.Bounds
import PlanarArm.Proofs.Arm.Inverse

/-!
# Going back to where the hand is

An arm that is told to bring its hand to where it is need not find the joint angles that it has. It
tries only angles in `(-π, π]`, it takes an elbow that is nearly straight or nearly folded for one
that is exactly so, and at the base, where every direction is the same, it takes the one of the axis
of abscissas. So a joint range can hold the angles that the arm has and none of those that it tries
(`allowed_but_refused`).

* `findsBack_off_edges`, `findsBack_near_straight`, `findsBack_near_folded`: the angles that are
  tried, of which some have to lie in the joint ranges.
* `finds_back`: the arm finds back if the ranges allow its angles, these are wrapped, nothing is
  snapped and the hand is off the base.
-/

namespace PlanarArm

/-- There are joint angles for the point where the hand is. -/
def ArmModel.FindsBack (m : ArmModel ℝ) (q : JointPair ℝ) : Prop :=
  ∃ solution, inverse m (forward m q).hand = .ok solution

section

variable {m : ArmModel ℝ} {q : JointPair ℝ}

theorem elbowCosine_hand (links : 0 < m.link1 ∧ 0 < m.link2) (q : JointPair ℝ) :
    elbowCosine m (forward m q).hand = Real.cos q.elbow := by
  have first := links.1.ne'
  have second := links.2.ne'
  rw [elbowCosine_real, norm_hand]
  field_simp
  ring

/-- The hand is never out of reach. -/
theorem hand_mem_ring (links : 0 < m.link1 ∧ 0 < m.link2) (q : JointPair ℝ) :
    snapCosine (elbowCosine m (forward m q).hand) ∈ Set.Icc (-1) 1 := by
  have low := Real.neg_one_le_cos q.elbow
  have high := Real.cos_le_one q.elbow
  have width : (0 : ℝ) < 1e-9 := by norm_num
  rw [elbowCosine_hand links]
  exact (snapCosine_mem_iff _).2 ⟨by linarith, by linarith⟩

theorem hand_eq_origin_iff (links : 0 < m.link1 ∧ 0 < m.link2) (q : JointPair ℝ) :
    (forward m q).hand = .origin ↔ m.link1 = m.link2 ∧ Real.cos q.elbow = -1 := by
  have square := norm_hand m q
  have stretch : 0 < 2 * m.link1 * m.link2 := mul_pos (mul_pos two_pos links.1) links.2
  have low := Real.neg_one_le_cos q.elbow
  rw [← Point.toComplex_eq_zero_iff, ← norm_eq_zero, ← Point.norm_real, ← sq_eq_zero_iff, square]
  constructor
  · intro zero
    have links_sq : (m.link1 - m.link2) ^ 2 = 0 := by
      nlinarith [sq_nonneg (m.link1 - m.link2)]
    have same : m.link1 = m.link2 := sub_eq_zero.1 (sq_eq_zero_iff.1 links_sq)
    refine ⟨same, ?_⟩
    nlinarith
  · rintro ⟨same, folded⟩
    rw [same, folded]
    ring

theorem findsBack_iff (links : 0 < m.link1 ∧ 0 < m.link2) (q : JointPair ℝ) :
    m.FindsBack q ↔ m.allows (branchAngles m (forward m q).hand .elbowDown) ∨
      m.allows (branchAngles m (forward m q).hand .elbowUp) := by
  rw [ArmModel.FindsBack, inverse_of_mem (hand_mem_ring links q)]
  cases m.allows (branchAngles m (forward m q).hand .elbowDown) <;>
    cases m.allows (branchAngles m (forward m q).hand .elbowUp) <;> simp

/-! ## The angles that are tried -/

/-- Aimed at its own hand, the arm takes up its own angles, but for whole turns. -/
theorem aimed_own_hand {elbow : ℝ} (off : (forward m q).hand ≠ .origin)
    (same : (elbow : Real.Angle) = q.elbow) :
    aimed m (forward m q).hand elbow = q.map wrapAngle := by
  have shoulder : (((forward m q).hand.bearing - (m.span q.elbow).arg : ℝ) : Real.Angle) =
      q.shoulder := by
    rw [Real.Angle.coe_sub, bearing_hand off, add_sub_cancel_right]
  rw [aimed_real, same, wrapAngle_congr shoulder, wrapAngle_congr same]
  rfl

/-- Where nothing is snapped, the elbow is tried as it is and bent the other way. -/
theorem findsBack_off_edges (links : 0 < m.link1 ∧ 0 < m.link2)
    (off : (forward m q).hand ≠ .origin)
    (kept : snapCosine (Real.cos q.elbow) = Real.cos q.elbow) :
    m.FindsBack q ↔
      m.allows (q.map wrapAngle) ∨ m.allows (aimed m (forward m q).hand (-q.elbow)) := by
  have cosine := elbowCosine_hand links q
  have own := @aimed_own_hand m q q.elbow off rfl
  have turns : Real.Angle.cos (Real.arccos (Real.cos q.elbow) : ℝ) = Real.Angle.cos q.elbow := by
    rw [Real.Angle.cos_coe, Real.Angle.cos_coe,
      Real.cos_arccos (Real.neg_one_le_cos _) (Real.cos_le_one _)]
  rw [findsBack_iff links, branchAngles, branchAngles, elbowTurn,
    elbowTurn, cosine, kept, ← own]
  rcases Real.Angle.cos_eq_iff_eq_or_eq_neg.1 turns with same | opposite
  · have other : ((-Real.arccos (Real.cos q.elbow) : ℝ) : Real.Angle) = ((-q.elbow : ℝ)) := by
      rw [Real.Angle.coe_neg, Real.Angle.coe_neg, same]
    rw [aimed_congr same, aimed_congr other]
    exact or_comm
  · have up : ((Real.arccos (Real.cos q.elbow) : ℝ) : Real.Angle) = ((-q.elbow : ℝ)) := by
      rw [Real.Angle.coe_neg, opposite]
    have down : ((-Real.arccos (Real.cos q.elbow) : ℝ) : Real.Angle) = q.elbow := by
      rw [Real.Angle.coe_neg, opposite, neg_neg]
    rw [aimed_congr up, aimed_congr down]

theorem findsBack_near_straight (links : 0 < m.link1 ∧ 0 < m.link2)
    (straight : |Real.cos q.elbow - 1| < 1e-9) :
    m.FindsBack q ↔ m.allows (aimed m (forward m q).hand 0) := by
  have cosine := elbowCosine_hand links q
  rw [findsBack_iff links, branchAngles, branchAngles, elbowTurn,
    elbowTurn, cosine, snapCosine_of_straight straight, Real.arccos_one, neg_zero]
  exact or_self_iff

theorem findsBack_near_folded (links : 0 < m.link1 ∧ 0 < m.link2)
    (folded : |Real.cos q.elbow + 1| < 1e-9) :
    m.FindsBack q ↔ m.allows (aimed m (forward m q).hand Real.pi) := by
  have cosine := elbowCosine_hand links q
  have same : ((-Real.pi : ℝ) : Real.Angle) = Real.pi := by
    rw [Real.Angle.coe_neg, Real.Angle.neg_coe_pi]
  rw [findsBack_iff links, branchAngles, branchAngles, elbowTurn,
    elbowTurn, cosine, snapCosine_of_folded folded, Real.arccos_neg_one, aimed_congr same]
  exact or_self_iff

/-! ## Ways to be refused -/

theorem wrapAngle_zero : wrapAngle (0 : ℝ) = 0 :=
  wrapAngle_of_mem ⟨neg_lt_zero.2 Real.pi_pos, Real.pi_pos.le⟩

/-- A straight arm has to find its own shoulder angle, wrapped. -/
theorem findsBack_straight (links : 0 < m.link1 ∧ 0 < m.link2) (shoulder : ℝ) :
    m.FindsBack ⟨shoulder, 0⟩ ↔ m.allows ⟨wrapAngle shoulder, 0⟩ := by
  have cosine : Real.cos 0 = 1 := Real.cos_zero
  have off : (forward m ⟨shoulder, 0⟩).hand ≠ .origin := by
    intro base
    have folded := ((hand_eq_origin_iff links _).1 base).2
    dsimp only at folded
    linarith
  have straight : |Real.cos 0 - 1| < 1e-9 := by
    rw [cosine, sub_self, abs_zero]
    norm_num
  have own := @aimed_own_hand m ⟨shoulder, 0⟩ 0 off rfl
  rw [@findsBack_near_straight m ⟨shoulder, 0⟩ links straight, own, JointPair.map, wrapAngle_zero]

/-- An arm whose hand is at its base has to lie folded along the axis of abscissas. -/
theorem findsBack_at_base (links : 0 < m.link1 ∧ 0 < m.link2)
    (base : (forward m q).hand = .origin) : m.FindsBack q ↔ m.allows ⟨0, Real.pi⟩ := by
  obtain ⟨same, cosine⟩ := (hand_eq_origin_iff links q).1 base
  have folded : |Real.cos q.elbow + 1| < 1e-9 := by
    rw [cosine, neg_add_cancel, abs_zero]
    norm_num
  have point : (forward m q).hand.toComplex = 0 := Point.toComplex_eq_zero_iff.2 base
  have span : m.span Real.pi = 0 := by
    rw [← Complex.normSq_eq_zero, ArmModel.normSq_span, Real.Angle.cos_coe, Real.cos_pi, same]
    ring
  have half : wrapAngle Real.pi = Real.pi :=
    wrapAngle_of_mem ⟨neg_lt_self Real.pi_pos, le_rfl⟩
  rw [findsBack_near_folded links folded, aimed_real, Point.bearing, point, span, Complex.arg_zero,
    sub_zero, wrapAngle_zero, half]

/-- An elbow that is nearly straight has to be allowed to be straight. -/
theorem ArmModel.FindsBack.elbow_of_straight (back : m.FindsBack q)
    (links : 0 < m.link1 ∧ 0 < m.link2) (straight : |Real.cos q.elbow - 1| < 1e-9) :
    0 ∈ Set.Icc m.elbow.lo m.elbow.hi := by
  have tried := (findsBack_near_straight links straight).1 back
  rw [aimed_real, wrapAngle_zero] at tried
  exact (ArmModel.allows_real.1 tried).2

end

/-- Three arms whose joint ranges allow angles from which they do not find back: the shoulder of the
first has turned by more than half a turn; the hand of the second is at its base; and the third
must not stretch its elbow quite as far as it is taken to be stretched. -/
theorem allowed_but_refused :
    let wide : ArmModel ℝ := ⟨1, 3 / 4, ⟨0, 5⟩, ⟨-2, 2⟩, 2⟩
    let even : ArmModel ℝ := ⟨1, 1, ⟨1, 2⟩, ⟨3, 4⟩, 2⟩
    let bent : ArmModel ℝ := ⟨1, 1, ⟨-1, 1⟩, ⟨1 / 100000, 1⟩, 2⟩
    (wide.Accepted ∧ wide.allows ⟨3 * Real.pi / 2, 0⟩ ∧
      ¬wide.FindsBack ⟨3 * Real.pi / 2, 0⟩) ∧
    (even.Accepted ∧ even.allows ⟨3 / 2, Real.pi⟩ ∧ ¬even.FindsBack ⟨3 / 2, Real.pi⟩) ∧
    bent.Accepted ∧ bent.allows ⟨0, 1 / 100000⟩ ∧ ¬bent.FindsBack ⟨0, 1 / 100000⟩ := by
  have three := Real.pi_gt_three
  have four := Real.pi_lt_d2
  intro wide even bent
  have widely : wide.Accepted := ArmModel.accepted_real.2 (by norm_num [wide])
  have evenly : even.Accepted := ArmModel.accepted_real.2 (by norm_num [even])
  have bently : bent.Accepted := ArmModel.accepted_real.2 (by norm_num [bent])
  refine ⟨⟨widely, ?_, fun back => ?_⟩, ⟨evenly, ?_, fun back => ?_⟩, bently, ?_, fun back => ?_⟩
  · exact ArmModel.allows_real.2 ⟨⟨by positivity, by linarith⟩, by norm_num [wide]⟩
  · have quarter : wrapAngle (3 * Real.pi / 2) = -Real.pi / 2 := by
      have turn : ((3 * Real.pi / 2 : ℝ) : Real.Angle) = ((-Real.pi / 2 : ℝ)) := by
        rw [Real.Angle.angle_eq_iff_two_pi_dvd_sub]
        exact ⟨1, by push_cast; ring⟩
      rw [wrapAngle_congr turn]
      exact wrapAngle_of_mem ⟨by linarith, by linarith⟩
    have tried := (findsBack_straight widely.links _).1 back
    rw [quarter] at tried
    have low : 0 ≤ -Real.pi / 2 := (ArmModel.allows_real.1 tried).1.1
    linarith
  · exact ArmModel.allows_real.2 ⟨by norm_num [even], three.le, by linarith⟩
  · have base := (hand_eq_origin_iff evenly.links ⟨3 / 2, Real.pi⟩).2 ⟨rfl, Real.cos_pi⟩
    have tried := (findsBack_at_base evenly.links base).1 back
    have low : (1 : ℝ) ≤ 0 := (ArmModel.allows_real.1 tried).1.1
    linarith
  · exact ArmModel.allows_real.2 ⟨by norm_num [bent], by norm_num [bent]⟩
  · have straight : |Real.cos (1 / 100000) - 1| < 1e-9 := by
      have low := @Real.one_sub_sq_div_two_le_cos (1 / 100000)
      have high := Real.cos_le_one (1 / 100000)
      rw [abs_lt]
      constructor <;> norm_num at low ⊢ <;> linarith
    have low : bent.elbow.lo ≤ 0 := (back.elbow_of_straight bently.links straight).1
    norm_num [bent] at low

/-! ## Finding back -/

/-- Where the hand is, is never out of reach. The arm finds back if the joint ranges allow its
angles, these are in `(-π, π]`, the elbow is not taken for straight or folded without being so, and
the hand is off the base. Without the first two, the angles that are tried are its own, wrapped, and
those with the elbow bent the other way. Close to the straight and to the folded elbow, only exactly
that elbow is tried. -/
theorem finds_back (m : ArmModel ℝ) (accepted : m.Accepted) (q : JointPair ℝ) :
    let hand := (forward m q).hand
    let cosine := Real.cos q.elbow
    inverse m hand ≠ .error (.unreachable hand) ∧
    (m.allows q → q.shoulder ∈ Set.Ioc (-Real.pi) Real.pi →
      q.elbow ∈ Set.Ioc (-Real.pi) Real.pi → snapCosine cosine = cosine → hand ≠ .origin →
        m.FindsBack q) ∧
    (snapCosine cosine = cosine → hand ≠ .origin →
      (m.FindsBack q ↔ m.allows (q.map wrapAngle) ∨ m.allows (aimed m hand (-q.elbow)))) ∧
    (|cosine - 1| < 1e-9 → (m.FindsBack q ↔ m.allows (aimed m hand 0))) ∧
    (|cosine + 1| < 1e-9 → (m.FindsBack q ↔ m.allows (aimed m hand Real.pi))) := by
  intro hand cosine
  have links := accepted.links
  refine ⟨?_, fun allowed shoulder elbow kept off => ?_, fun kept off => ?_, ?_, ?_⟩
  · rw [ne_eq, inverse_unreachable_iff, not_not]
    exact hand_mem_ring links q
  · have wrapped : q.map wrapAngle = q := by
      rw [JointPair.map, wrapAngle_of_mem shoulder, wrapAngle_of_mem elbow]
    exact (findsBack_off_edges links off kept).2 (.inl (wrapped.symm ▸ allowed))
  · exact findsBack_off_edges links off kept
  · exact findsBack_near_straight links
  · exact findsBack_near_folded links

/-- The standard arm turned back to front, with its elbow bent by a right angle. -/
theorem finds_back_right_angle :
    (ArmModel.standard : ArmModel ℝ).Accepted ∧
      (ArmModel.standard : ArmModel ℝ).allows ⟨Real.pi, Real.pi / 2⟩ ∧
      (ArmModel.standard : ArmModel ℝ).FindsBack ⟨Real.pi, Real.pi / 2⟩ := by
  have half : 0 < Real.pi := Real.pi_pos
  have accepted := ArmModel.accepted_standard
  have allowed : (ArmModel.standard : ArmModel ℝ).allows ⟨Real.pi, Real.pi / 2⟩ := by
    have low : Scalar.ofDegrees (-150.0 : ℝ) ≤ Real.pi / 2 := by
      rw [Scalar.ofDegrees_real]
      nlinarith
    have high : Real.pi / 2 ≤ Scalar.ofDegrees (150.0 : ℝ) := by
      rw [Scalar.ofDegrees_real]
      nlinarith
    exact ArmModel.allows_real.2 ⟨⟨neg_le_self half.le, le_rfl⟩, low, high⟩
  have cosine : Real.cos (Real.pi / 2) = 0 := Real.cos_pi_div_two
  have kept : snapCosine (Real.cos (Real.pi / 2)) = Real.cos (Real.pi / 2) := by
    rw [cosine]
    exact snapCosine_of_far (by norm_num) (by norm_num)
  have off : (forward (ArmModel.standard : ArmModel ℝ) ⟨Real.pi, Real.pi / 2⟩).hand ≠ .origin := by
    intro base
    have folded := ((hand_eq_origin_iff accepted.links _).1 base).2
    dsimp only at folded
    linarith
  refine ⟨accepted, allowed, ?_⟩
  exact (finds_back .standard accepted ⟨Real.pi, Real.pi / 2⟩).2.1 allowed
    ⟨neg_lt_self half, le_rfl⟩ ⟨by linarith, by linarith⟩ kept off

end PlanarArm
