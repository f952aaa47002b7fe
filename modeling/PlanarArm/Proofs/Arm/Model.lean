import PlanarArm.Arm.Model
import PlanarArm.Proofs.Scalar.Finite

/-!
# Accepted arms

An arm is accepted if it is what `ArmModel.create` makes of its own dimensions
(`ArmModel.Accepted`). Then its joint ranges are not empty, so that every pair of angles has a
nearest one in them (`ArmModel.Accepted.clamp`), and in exact numbers its links are longer than zero
(`ArmModel.accepted_real`).
-/

namespace PlanarArm

section

variable {α : Type} [Scalar α]

theorem JointRange.clamp_of_isValid [Scalar.FiniteTotal α] {r : JointRange α}
    (valid : r.isValid = true) (angle : α) :
    r.clamp? angle = some (Scalar.clamp r.lo r.hi angle) := by
  unfold JointRange.isValid at valid
  rw [Bool.and_eq_true, Bool.and_eq_true, Bool.not_eq_true', decide_eq_false_iff_not] at valid
  obtain ⟨⟨low, high⟩, order⟩ := valid
  exact if_pos (Scalar.FiniteTotal.le_of_not_lt low high order)

namespace ArmModel

variable {m : ArmModel α}

/-- The arm is one that can be created. -/
def Accepted (m : ArmModel α) : Prop :=
  create m.link1 m.link2 m.shoulder m.elbow m.maxSpeed = .ok m

theorem create_eq_ok_iff {link1 link2 maxSpeed : α} {shoulder elbow : JointRange α} :
    create link1 link2 shoulder elbow maxSpeed = .ok m ↔
      (isPositive link1 = true ∧ isPositive link2 = true ∧ shoulder.isValid = true ∧
        elbow.isValid = true ∧ isPositive maxSpeed = true) ∧
      m = ⟨link1, link2, shoulder, elbow, maxSpeed⟩ := by
  unfold create
  cases isPositive link1 <;> cases isPositive link2 <;> cases shoulder.isValid <;>
    cases elbow.isValid <;> cases isPositive maxSpeed <;> simp [eq_comm]

/-- Whatever is created is accepted. -/
theorem accepted_of_create {link1 link2 maxSpeed : α} {shoulder elbow : JointRange α}
    (created : create link1 link2 shoulder elbow maxSpeed = .ok m) : m.Accepted := by
  obtain ⟨parts, rfl⟩ := create_eq_ok_iff.1 created
  exact create_eq_ok_iff.2 ⟨parts, rfl⟩

theorem accepted_iff : m.Accepted ↔
    isPositive m.link1 = true ∧ isPositive m.link2 = true ∧ m.shoulder.isValid = true ∧
      m.elbow.isValid = true ∧ isPositive m.maxSpeed = true := by
  unfold Accepted
  rw [create_eq_ok_iff]
  exact and_iff_left rfl

/-- No joint range of an accepted arm is empty. -/
theorem Accepted.clamp [Scalar.FiniteTotal α] (accepted : m.Accepted) (q : JointPair α) :
    ∃ target, m.clamp? q = some target := by
  obtain ⟨-, -, shoulder, elbow, -⟩ := accepted_iff.1 accepted
  unfold clamp?
  rw [JointRange.clamp_of_isValid shoulder, JointRange.clamp_of_isValid elbow]
  exact ⟨_, rfl⟩

end ArmModel

end

/-! ## In exact numbers -/

theorem JointRange.contains_real {r : JointRange ℝ} {angle : ℝ} :
    r.contains angle = true ↔ angle ∈ Set.Icc r.lo r.hi := by
  unfold JointRange.contains
  rw [Bool.and_eq_true, decide_eq_true_iff, decide_eq_true_iff]
  rfl

theorem JointRange.isValid_real {r : JointRange ℝ} : r.isValid = true ↔ r.lo ≤ r.hi := by
  unfold JointRange.isValid
  rw [Scalar.isFinite_real, Scalar.isFinite_real, Bool.true_and, Bool.true_and,
    Bool.not_eq_true', decide_eq_false_iff_not, not_lt]

namespace ArmModel

variable {m : ArmModel ℝ}

theorem isPositive_real {x : ℝ} : isPositive x = true ↔ 0 < x := by
  unfold isPositive
  rw [Scalar.isFinite_real, Bool.true_and, decide_eq_true_iff, Scalar.zero_real]

theorem accepted_real : m.Accepted ↔
    0 < m.link1 ∧ 0 < m.link2 ∧ m.shoulder.lo ≤ m.shoulder.hi ∧ m.elbow.lo ≤ m.elbow.hi ∧
      0 < m.maxSpeed := by
  rw [accepted_iff, isPositive_real, isPositive_real, isPositive_real, JointRange.isValid_real,
    JointRange.isValid_real]

theorem Accepted.links (accepted : m.Accepted) : 0 < m.link1 ∧ 0 < m.link2 :=
  ⟨(accepted_real.1 accepted).1, (accepted_real.1 accepted).2.1⟩

theorem allows_real {q : JointPair ℝ} :
    m.allows q = true ↔ q.shoulder ∈ Set.Icc m.shoulder.lo m.shoulder.hi ∧
      q.elbow ∈ Set.Icc m.elbow.lo m.elbow.hi := by
  unfold allows
  rw [Bool.and_eq_true, JointRange.contains_real, JointRange.contains_real]

theorem accepted_standard : (standard : ArmModel ℝ).Accepted := by
  have elbow : Scalar.ofDegrees (-150.0 : ℝ) ≤ Scalar.ofDegrees 150.0 := by
    rw [Scalar.ofDegrees_real, Scalar.ofDegrees_real]
    nlinarith [Real.pi_pos]
  have shoulder : -Real.pi ≤ Real.pi := neg_le_self Real.pi_pos.le
  have links : (0 : ℝ) < 1.0 ∧ (0 : ℝ) < 0.75 ∧ (0 : ℝ) < 2.0 := by norm_num
  exact accepted_real.2 ⟨links.1, links.2.1, shoulder, elbow, links.2.2⟩

end ArmModel

end PlanarArm
