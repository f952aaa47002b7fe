import Mathlib.Analysis.Convex.Segment
import PlanarArm.Proofs.Arm.Inverse
import PlanarArm.Proofs.Simulator.Progress
import PlanarArm.Proofs.Simulator.Running

/-!
# Joints stay in their ranges

An arm starts at home, which its joint ranges need not allow, and every motion goes home or to
angles that they allow. On the way the joints overshoot neither end of the motion. So each joint
stays between the ends of its range, widened so far that it reaches home (`ArmModel.box`), and in
the range itself if that holds home.

* `Motion.anglesAt_mem_box`: all angles of a motion are in the box if its two ends are.
* `Simulator.plan_target_mem_box`: whatever a command plans, it ends in the box.
* `Simulator.Boxed.step`, `Simulator.Boxed.after`: a step and an operation keep the joints and the
  ends of the motion under way in the box.
* `joints_in_box`: so does a run.
-/

namespace PlanarArm

/-! ## The box -/

/-- The range of a joint together with all angles between it and home. -/
def JointRange.withHome (r : JointRange ℝ) : Set ℝ :=
  Set.Icc (min r.lo 0) (max r.hi 0)

/-- The joint angles between the ranges and home. -/
def ArmModel.box (m : ArmModel ℝ) : Set (JointPair ℝ) :=
  {q | q.shoulder ∈ m.shoulder.withHome ∧ q.elbow ∈ m.elbow.withHome}

theorem JointRange.mem_withHome {r : JointRange ℝ} {angle : ℝ}
    (within : angle ∈ Set.Icc r.lo r.hi) : angle ∈ r.withHome :=
  ⟨min_le_of_left_le within.1, le_max_of_le_left within.2⟩

theorem JointRange.withHome_of_home {r : JointRange ℝ} (home : 0 ∈ Set.Icc r.lo r.hi) :
    r.withHome = Set.Icc r.lo r.hi := by
  rw [withHome, min_eq_left home.1, max_eq_left home.2]

theorem JointRange.clamp?_mem {r : JointRange ℝ} {angle nearest : ℝ}
    (clamped : r.clamp? angle = some nearest) : nearest ∈ Set.Icc r.lo r.hi := by
  unfold JointRange.clamp? at clamped
  split at clamped
  · next order =>
    cases clamped
    rw [Scalar.clamp_real order]
    exact ⟨le_max_left _ _, max_le order (min_le_left _ _)⟩
  · cases clamped

namespace ArmModel

variable {m : ArmModel ℝ} {a b q : JointPair ℝ}

theorem home_mem_box (m : ArmModel ℝ) : .home ∈ m.box := by
  rw [JointPair.home_real]
  exact ⟨⟨min_le_right _ _, le_max_right _ _⟩, ⟨min_le_right _ _, le_max_right _ _⟩⟩

theorem mem_box_of_allows (allowed : m.allows q = true) : q ∈ m.box := by
  obtain ⟨shoulder, elbow⟩ := allows_real.1 allowed
  exact ⟨JointRange.mem_withHome shoulder, JointRange.mem_withHome elbow⟩

theorem allows_of_mem_box (home : m.allows .home = true) (boxed : q ∈ m.box) :
    m.allows q = true := by
  rw [JointPair.home_real] at home
  obtain ⟨shoulder, elbow⟩ := allows_real.1 home
  obtain ⟨first, second⟩ := boxed
  rw [JointRange.withHome_of_home shoulder] at first
  rw [JointRange.withHome_of_home elbow] at second
  exact allows_real.2 ⟨first, second⟩

theorem clamp?_mem_box {target : JointPair ℝ} (clamped : m.clamp? q = some target) :
    target ∈ m.box := by
  unfold clamp? at clamped
  split at clamped
  · next shoulder elbow first second =>
    cases clamped
    exact ⟨JointRange.mem_withHome (JointRange.clamp?_mem first),
      JointRange.mem_withHome (JointRange.clamp?_mem second)⟩
  · cases clamped

/-- The box has no gaps. -/
theorem lerp_mem_box {s : ℝ} (start : a ∈ m.box) (target : b ∈ m.box) (part : s ∈ Set.Icc 0 1) :
    a.lerp b s ∈ m.box := by
  have between {r : JointRange ℝ} {x y : ℝ} (first : x ∈ r.withHome) (last : y ∈ r.withHome) :
      x + (y - x) * s ∈ r.withHome := by
    rw [mul_comm, ← smul_eq_mul]
    exact (convex_Icc _ _).add_smul_sub_mem first last part
  exact ⟨between start.1 target.1, between start.2 target.2⟩

end ArmModel

/-! ## Motions -/

theorem smoothstep_mem (u : ℝ) : smoothstep u ∈ Set.Icc 0 1 := by
  have order : (0.0 : ℝ) ≤ 1.0 := by norm_num
  have formula : smoothstep u = Scalar.clamp (0.0 : ℝ) 1.0 u * Scalar.clamp (0.0 : ℝ) 1.0 u *
      ((3.0 : ℝ) - (2.0 : ℝ) * Scalar.clamp (0.0 : ℝ) 1.0 u) := rfl
  have low : 0 ≤ max 0 (min 1 u) := le_max_left _ _
  have high : max 0 (min 1 u) ≤ 1 := max_le zero_le_one (min_le_left _ _)
  rw [formula, Scalar.clamp_real order, Scalar.zero_real, Scalar.one_real]
  generalize max 0 (min 1 u) = v at low high
  constructor <;> norm_num <;> nlinarith [mul_nonneg low low, mul_nonneg (sub_nonneg.2 high) low]

namespace Motion

variable {m : ArmModel ℝ} {p : Motion ℝ}

theorem anglesAt_mem_box (start : p.start ∈ m.box) (target : p.target ∈ m.box) (u : ℝ) :
    p.anglesAt u ∈ m.box := by
  unfold anglesAt
  split
  · exact target
  · exact ArmModel.lerp_mem_box start target (smoothstep_mem u)

end Motion

/-! ## Simulators -/

namespace Simulator

/-- Home is in the box, and a command goes anywhere else only if the joint ranges allow it. -/
theorem plan_target_mem_box {s : Simulator ℝ} {c : Command ℝ} {p : Motion ℝ}
    (plan : s.plan c = .run (.motion p)) : p.target ∈ s.model.box := by
  unfold Simulator.plan Simulator.motionTo at plan
  split at plan
  · cases plan
    exact s.model.home_mem_box
  · split at plan
    · next target clamped =>
      cases plan
      exact ArmModel.clamp?_mem_box clamped
    · cases plan
  · split at plan
    · next solution solved =>
      cases plan
      exact ArmModel.mem_box_of_allows (allows_of_inverse solved)
    · cases plan
  · cases plan
  · cases plan
  · cases plan

/-- The joints are in the box, and so are the ends of the motion under way. -/
structure Boxed (s : Simulator ℝ) : Prop where
  angles : s.angles ∈ s.model.box
  motion : ∀ r p, s.running = some r → r.activity = .motion p →
    p.start ∈ s.model.box ∧ p.target ∈ s.model.box

namespace Boxed

variable {s t : Simulator ℝ}

theorem of_idle (idle : s.running = none) (angles : s.angles ∈ s.model.box) : s.Boxed :=
  ⟨angles, fun _ _ busy => nomatch idle.symm.trans busy⟩

theorem of_same (boxed : s.Boxed) (model : t.model = s.model) (angles : t.angles = s.angles)
    (running : t.running = s.running) : t.Boxed := by
  obtain ⟨joints, motion⟩ := boxed
  refine ⟨?_, fun r p busy moves => ?_⟩
  · rw [angles, model]
    exact joints
  · rw [model]
    exact motion r p (running.symm.trans busy) moves

theorem step (step : s.Step t) (boxed : s.Boxed) : t.Boxed := by
  cases step with
  | @begin c rest activity idle next plan =>
    refine ⟨boxed.angles, fun r p busy moves => ?_⟩
    cases busy
    cases moves
    exact ⟨(plan_motion plan).1 ▸ boxed.angles, plan_target_mem_box plan⟩
  | replace idle next plan => exact of_idle idle boxed.angles
  | settle idle next plan => exact of_idle idle boxed.angles
  | wait dt busy stage =>
    refine ⟨boxed.angles, fun r p running moves => ?_⟩
    cases running
    exact boxed.motion _ p busy moves
  | move dt busy stage =>
    obtain ⟨p, u, moves, rfl⟩ := Running.motion_of_moved stage
    obtain ⟨start, target⟩ := boxed.motion _ p busy moves
    refine ⟨Motion.anglesAt_mem_box start target u, fun r p running moves => ?_⟩
    cases running
    exact boxed.motion _ p busy moves
  | arrive dt busy stage =>
    obtain ⟨p, moves, rfl, -⟩ := Running.motion_of_arrived stage
    exact of_idle rfl (boxed.motion _ p busy moves).2
  | elapse dt busy stage => exact of_idle rfl boxed.angles

/-- A new timing leaves the ends of a motion where they are. -/
theorem setSpeed (boxed : s.Boxed) (value : ℝ) : (s.setSpeed value).Boxed := by
  refine ⟨boxed.angles, fun r p running moves => ?_⟩
  obtain ⟨before, busy, rfl⟩ := Option.map_eq_some_iff.1 running
  cases activity : before.activity with
  | motion q =>
    obtain ⟨retimed, motion, start, target, -⟩ :=
      Running.retime_of_motion activity s.model (clampSpeed value)
    cases motion.symm.trans moves
    rw [start, target]
    exact boxed.motion before q busy activity
  | sleep duration =>
    rw [Running.retime_of_sleep activity, activity] at moves
    cases moves

theorem invariant : Invariant Boxed where
  step := step
  push c boxed := boxed.of_same rfl rfl rfl
  setSpeed value boxed := boxed.setSpeed value
  resetPath boxed := boxed.of_same rfl rfl rfl
  stop boxed := by
    rw [stop_eq]
    exact of_idle rfl boxed.angles
  hardReset boxed := by
    rw [hardReset_eq]
    exact of_idle rfl (ArmModel.home_mem_box _)
  drain boxed := boxed.of_same rfl rfl rfl

theorem run (m : ArmModel ℝ) (speed : ℝ) (operations : List (Operation ℝ)) :
    ((History.start (.withSpeed m speed)).run operations).simulator.Boxed :=
  invariant.run (of_idle rfl m.home_mem_box) operations

end Boxed

end Simulator

/-! ## Runs -/

/-- Whatever a simulator is told, the joints are between their ranges and home, and so is the whole
of the motion under way. If the ranges allow home, they allow all of these angles. -/
theorem joints_in_box (m : ArmModel ℝ) (speed : ℝ) (operations : List (Operation ℝ)) :
    let s := ((History.start (.withSpeed m speed)).run operations).simulator
    s.angles ∈ m.box ∧
      (∀ r p, s.running = some r → r.activity = .motion p →
        p.start ∈ m.box ∧ p.target ∈ m.box ∧ ∀ u, p.anglesAt u ∈ m.box) ∧
      (m.allows .home = true →
        m.allows s.angles = true ∧
          ∀ r p, s.running = some r → r.activity = .motion p →
            m.allows p.start = true ∧ m.allows p.target = true ∧
              ∀ u, m.allows (p.anglesAt u) = true) := by
  intro s
  have model : s.model = m := History.model_run m speed operations
  have boxed : s.Boxed := .run m speed operations
  have joints : s.angles ∈ m.box := model ▸ boxed.angles
  have ends (r : Running ℝ) (p : Motion ℝ) (busy : s.running = some r)
      (moves : r.activity = .motion p) : p.start ∈ m.box ∧ p.target ∈ m.box :=
    model ▸ boxed.motion r p busy moves
  refine ⟨joints, fun r p busy moves => ?_, fun home => ⟨?_, fun r p busy moves => ?_⟩⟩
  · obtain ⟨start, target⟩ := ends r p busy moves
    exact ⟨start, target, Motion.anglesAt_mem_box start target⟩
  · exact ArmModel.allows_of_mem_box home joints
  · obtain ⟨start, target⟩ := ends r p busy moves
    exact ⟨ArmModel.allows_of_mem_box home start, ArmModel.allows_of_mem_box home target,
      fun u => ArmModel.allows_of_mem_box home (Motion.anglesAt_mem_box start target u)⟩

/-- The standard arm on its way to half a turn. -/
theorem joints_in_box_standard :
    let s := ((History.start (.withSpeed (.standard : ArmModel ℝ) 1)).run
      [.enqueue ⟨⟨"turn"⟩, .setJoints ⟨180, 0⟩⟩, .tick (Real.pi / 4)]).simulator
    (ArmModel.standard : ArmModel ℝ).allows .home = true ∧
      (ArmModel.standard : ArmModel ℝ).allows s.angles = true := by
  intro s
  have shoulder : (0 : ℝ) ∈ Set.Icc (-Real.pi) Real.pi :=
    ⟨neg_nonpos.2 Real.pi_pos.le, Real.pi_pos.le⟩
  have elbow : (0 : ℝ) ∈ Set.Icc (Scalar.ofDegrees (-150.0)) (Scalar.ofDegrees 150.0) := by
    rw [Scalar.ofDegrees_real, Scalar.ofDegrees_real]
    constructor <;> nlinarith [Real.pi_pos]
  have home : (ArmModel.standard : ArmModel ℝ).allows .home = true := by
    rw [JointPair.home_real]
    exact ArmModel.allows_real.2 ⟨shoulder, elbow⟩
  obtain ⟨-, -, within⟩ := joints_in_box .standard 1
    [.enqueue ⟨⟨"turn"⟩, .setJoints ⟨180, 0⟩⟩, .tick (Real.pi / 4)]
  exact ⟨home, (within home).1⟩

end PlanarArm
