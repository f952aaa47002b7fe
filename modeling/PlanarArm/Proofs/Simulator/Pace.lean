import PlanarArm.Proofs.Simulator.Progress
import PlanarArm.Proofs.Arm.Model
import PlanarArm.Proofs.Simulator.Rest
import PlanarArm.Proofs.Simulator.Running

/-!
# How fast the joints move

A motion is timed so that on average neither joint is faster than the speed of the arm at the speed
scale in force (`ArmModel.pace`). The ease makes it start and end at rest and pay for that in the
middle, where it is half as fast again. That is the exact bound, since the slope of the ease is at
most 3/2 and takes this value at 1/2 only.

* `smoothstep_sub_le`: the slope of the ease.
* `Underway.tick_angles`: what a tick does to a motion, whether it ends there or not.
* `joint_speed_bounded`: the bound for every tick of every run, and that no smaller one will do.
-/

namespace PlanarArm

/-! ## The slope of the ease -/

theorem smoothstep_one : smoothstep (1 : ℝ) = 1 := by
  rw [smoothstep_real zero_le_one le_rfl]
  norm_num

theorem smoothstep_sub {u v : ℝ} (low : 0 ≤ u) (order : u ≤ v) (high : v ≤ 1) :
    smoothstep v - smoothstep u = (v - u) * (3 * (u + v) - 2 * (u ^ 2 + u * v + v ^ 2)) := by
  rw [smoothstep_real low (order.trans high), smoothstep_real (low.trans order) high]
  ring

theorem smoothstep_mono {u v : ℝ} (low : 0 ≤ u) (order : u ≤ v) (high : v ≤ 1) :
    smoothstep u ≤ smoothstep v := by
  rw [← sub_nonneg, smoothstep_sub low order high]
  refine mul_nonneg (sub_nonneg.2 order) ?_
  nlinarith [mul_nonneg low (sub_nonneg.2 (order.trans high)),
    mul_nonneg (low.trans order) (sub_nonneg.2 high), mul_nonneg low (sub_nonneg.2 high)]

/-- The slope falls short of 3/2 by `3/2 (1 - (u + v))² + 1/2 (v - u)²`. -/
theorem smoothstep_sub_le {u v : ℝ} (low : 0 ≤ u) (order : u ≤ v) (high : v ≤ 1) :
    smoothstep v - smoothstep u ≤ 3 / 2 * (v - u) := by
  have short : 3 / 2 - (3 * (u + v) - 2 * (u ^ 2 + u * v + v ^ 2)) =
      3 / 2 * (1 - (u + v)) ^ 2 + 1 / 2 * (v - u) ^ 2 := by ring
  have slope : 3 * (u + v) - 2 * (u ^ 2 + u * v + v ^ 2) ≤ 3 / 2 := by
    rw [← sub_nonneg, short]
    positivity
  rw [smoothstep_sub low order high, mul_comm]
  exact mul_le_mul_of_nonneg_right slope (sub_nonneg.2 order)

/-! ## The timing of motions -/

/-- The speed that the joints have on average while they move, at a speed scale. -/
noncomputable def ArmModel.pace (m : ArmModel ℝ) (scale : ℝ) : ℝ :=
  m.maxSpeed * max 0.05 (min 1 scale)

namespace ArmModel

variable {m : ArmModel ℝ}

theorem pace_pos (speed : 0 < m.maxSpeed) (scale : ℝ) : 0 < m.pace scale := by
  have least : (0 : ℝ) < 0.05 := by norm_num
  exact mul_pos speed (lt_max_of_lt_left least)

theorem motionTime_eq (m : ArmModel ℝ) (a b : JointPair ℝ) (scale : ℝ) :
    motionTime m a b scale =
      max (max |b.shoulder - a.shoulder| |b.elbow - a.elbow| / m.pace scale) 0.08 := by
  have order : (0.05 : ℝ) ≤ 1.0 := by norm_num
  have formula : motionTime m a b scale =
      Scalar.maxNum (Scalar.maxNum (Scalar.abs (b.shoulder - a.shoulder))
        (Scalar.abs (b.elbow - a.elbow)) / (m.maxSpeed * Scalar.clamp (0.05 : ℝ) 1.0 scale))
        0.08 := rfl
  rw [formula, Scalar.clamp_real order, Scalar.maxNum_real, Scalar.maxNum_real, Scalar.abs_real,
    Scalar.abs_real, Scalar.one_real, pace]

/-- A motion takes enough time for both joints to make their way at this speed. -/
theorem way_le (speed : 0 < m.maxSpeed) (a b : JointPair ℝ) (scale : ℝ) :
    |b.shoulder - a.shoulder| ≤ m.pace scale * motionTime m a b scale ∧
      |b.elbow - a.elbow| ≤ m.pace scale * motionTime m a b scale := by
  have positive := pace_pos speed scale
  have whole : max |b.shoulder - a.shoulder| |b.elbow - a.elbow| ≤
      m.pace scale * motionTime m a b scale := by
    rw [motionTime_eq, mul_comm, ← div_le_iff₀ positive]
    exact le_max_left _ _
  exact ⟨(le_max_left _ _).trans whole, (le_max_right _ _).trans whole⟩

end ArmModel

theorem JointPair.lerp_one (a b : JointPair ℝ) : a.lerp b 1 = b := by
  have shoulder : a.shoulder + (b.shoulder - a.shoulder) * 1 = b.shoulder := by ring
  have elbow : a.elbow + (b.elbow - a.elbow) * 1 = b.elbow := by ring
  exact congr (congrArg JointPair.mk shoulder) elbow

/-! ## Ticks -/

/-- Both joints of `q` are within `way` of those of `p`. -/
def JointPair.Near (p q : JointPair ℝ) (way : ℝ) : Prop :=
  |q.shoulder - p.shoulder| ≤ way ∧ |q.elbow - p.elbow| ≤ way

namespace JointPair.Near

theorem of_eq {p q : JointPair ℝ} {way : ℝ} (same : q = p) (positive : 0 ≤ way) :
    p.Near q way := by
  subst same
  constructor <;> rwa [sub_self, abs_zero]

/-- Between two fractions of one line, the joints move by as much of its length. -/
theorem lerp {a b : JointPair ℝ} {length s t : ℝ} (shoulder : |b.shoulder - a.shoulder| ≤ length)
    (elbow : |b.elbow - a.elbow| ≤ length) (order : s ≤ t) :
    (a.lerp b s).Near (a.lerp b t) (length * (t - s)) := by
  have part {x y : ℝ} (bounded : |y - x| ≤ length) :
      |x + (y - x) * t - (x + (y - x) * s)| ≤ length * (t - s) := by
    have factored : x + (y - x) * t - (x + (y - x) * s) = (y - x) * (t - s) := by ring
    rw [factored, abs_mul, abs_of_nonneg (sub_nonneg.2 order)]
    exact mul_le_mul_of_nonneg_right bounded (sub_nonneg.2 order)
  exact ⟨part shoulder, part elbow⟩

theorem mono {p q : JointPair ℝ} {way more : ℝ} (near : p.Near q way) (le : way ≤ more) :
    p.Near q more :=
  ⟨near.1.trans le, near.2.trans le⟩

end JointPair.Near

namespace Underway

variable {s : Simulator ℝ} {id : CommandId} {p : Motion ℝ} {elapsed : ℝ}

/-- A tick takes the joints further along the line of the motion, and no further than the time that
passes allows; where the motion ends, the rest of the time is not used. -/
theorem tick_angles (under : Underway s id p elapsed) (dt : ℝ) :
    ∃ v, p.progress elapsed ≤ v ∧ v ≤ 1 ∧ p.duration * (v - p.progress elapsed) ≤ max dt 0 ∧
      (s.tick dt).angles = p.start.lerp p.target (smoothstep v) := by
  have positive := under.duration_pos
  have passed : 0 ≤ max dt 0 := le_max_right dt 0
  rcases lt_or_ge (elapsed + max dt 0) p.duration with short | long
  · refine ⟨(elapsed + max dt 0) / p.duration, ?_, ?_, ?_, ?_⟩
    · rw [under.progress_eq]
      exact div_le_div_of_nonneg_right (by linarith) positive.le
    · exact ((div_lt_one positive).2 short).le
    · rw [under.progress_eq, ← sub_div, mul_div_cancel₀ _ positive.ne']
      linarith
    · rw [under.tick_of_lt short, (under.move short).progress_eq]
      rfl
  · refine ⟨1, under.progress_lt.le, le_rfl, ?_, ?_⟩
    · rw [under.progress_eq, mul_sub, mul_one, mul_div_cancel₀ _ positive.ne']
      linarith
    · rw [under.tick_of_le long, smoothstep_one, JointPair.lerp_one, Simulator.finish,
        Simulator.startNext_angles]
      rfl

theorem near_tick (under : Underway s id p elapsed) (speed : 0 < s.model.maxSpeed) (dt : ℝ) :
    s.angles.Near (s.tick dt).angles (3 / 2 * s.model.pace s.speedScale * max dt 0) := by
  obtain ⟨v, order, high, time, place⟩ := under.tick_angles dt
  have low : 0 ≤ p.progress elapsed := by
    rw [under.progress_eq]
    exact div_nonneg under.low under.duration_pos.le
  have pace := ArmModel.pace_pos speed s.speedScale
  obtain ⟨shoulder, elbow⟩ := ArmModel.way_le speed p.start p.target s.speedScale
  rw [← under.duration] at shoulder elbow
  rw [place, under.angles]
  refine (JointPair.Near.lerp shoulder elbow (smoothstep_mono low order high)).mono ?_
  calc s.model.pace s.speedScale * p.duration * (smoothstep v - smoothstep (p.progress elapsed))
      ≤ s.model.pace s.speedScale * p.duration * (3 / 2 * (v - p.progress elapsed)) :=
        mul_le_mul_of_nonneg_left (smoothstep_sub_le low order high)
          (mul_pos pace under.duration_pos).le
    _ = 3 / 2 * s.model.pace s.speedScale * (p.duration * (v - p.progress elapsed)) := by ring
    _ ≤ 3 / 2 * s.model.pace s.speedScale * max dt 0 :=
        mul_le_mul_of_nonneg_left time (by positivity)

end Underway

namespace Simulator

/-- A tick without a motion moves nothing. -/
theorem tick_angles_of_still {α : Type} [Scalar α] {s : Simulator α}
    (still : ∀ r p, s.running = some r → r.activity ≠ .motion p) (dt : α) :
    (s.tick dt).angles = s.angles := by
  rw [tick_angles]
  unfold pass
  split
  · rfl
  · next r busy =>
    dsimp only
    split
    · rfl
    · next angles stage =>
      obtain ⟨p, -, moves, -⟩ := Running.motion_of_moved stage
      exact absurd moves (still r p busy)
    · next angles completion stage =>
      obtain ⟨p, moves, -⟩ := Running.motion_of_arrived stage
      exact absurd moves (still r p busy)
    · rfl

theorem IsTimed.near_tick {s : Simulator ℝ} (timed : s.IsTimed) (speed : 0 < s.model.maxSpeed)
    (dt : ℝ) : s.angles.Near (s.tick dt).angles (3 / 2 * s.model.pace s.speedScale * max dt 0) := by
  by_cases moving : ∃ id p elapsed, s.running = some ⟨id, .motion p, elapsed⟩
  · obtain ⟨id, p, elapsed, busy⟩ := moving
    exact (timed id p elapsed busy).near_tick speed dt
  · have still : ∀ r p, s.running = some r → r.activity ≠ .motion p := by
      rintro ⟨id, activity, elapsed⟩ p busy rfl
      exact moving ⟨id, p, elapsed, busy⟩
    have pace := ArmModel.pace_pos speed s.speedScale
    exact .of_eq (tick_angles_of_still still dt) (by positivity)

end Simulator

/-! ## The middle of half a turn -/

theorem ArmModel.pace_standard : (standard : ArmModel ℝ).pace 1 = 2 := by
  have formula : (standard : ArmModel ℝ).pace 1 = (2.0 : ℝ) * max 0.05 (min 1 1) := rfl
  rw [formula]
  norm_num

theorem OnWay.angles {s : Simulator ℝ} {id : CommandId} {p : Motion ℝ} {done : ℝ}
    (way : OnWay s id p done) : s.angles = p.start.lerp p.target (smoothstep done) := by
  obtain ⟨q, elapsed, under, ⟨start, target, -⟩, rfl⟩ := way
  rw [under.angles, start, target]

/-- Half a turn of the standard arm. -/
noncomputable def halfTurn : Motion ℝ :=
  .timed .standard .home ⟨Real.pi, 0⟩ 1 none

/-- Half a turn is begun, and a part of it made. -/
noncomputable def turn (part : ℝ) : List (Operation ℝ) :=
  [.enqueue ⟨⟨"turn"⟩, .setJoints ⟨180, 0⟩⟩, .tick (part * (Real.pi / 2))]

/-- The standard arm when it has made a part of half a turn. -/
noncomputable def turning (part : ℝ) : History ℝ :=
  (History.start (.withSpeed .standard 1)).run (turn part)

theorem share_halfTurn {part : ℝ} (low : 0 ≤ part) :
    Operation.share .standard halfTurn.start halfTurn.target 1 (.tick (part * (Real.pi / 2))) =
      part := by
  have positive : 0 < Real.pi / 2 := by positivity
  have time : max (part * (Real.pi / 2)) 0 = part * (Real.pi / 2) :=
    max_eq_left (mul_nonneg low positive.le)
  have duration : motionTime .standard halfTurn.start halfTurn.target 1 = Real.pi / 2 := by
    have formula := motionTime_turn (by norm_num) (le_refl (1 : ℝ))
    rwa [mul_one, ← JointPair.home_real] at formula
  rw [Operation.share, time, duration, mul_div_cancel_right₀ _ positive.ne']

theorem onWay_turning {part : ℝ} (low : 0 ≤ part) (high : part < 1) :
    OnWay (turning part).simulator ⟨"turn"⟩ halfTurn part ∧
      (turning part).simulator.speedScale = 1 := by
  set h : History ℝ := (History.start (.withSpeed .standard 1)).after
    (.enqueue ⟨⟨"turn"⟩, .setJoints ⟨180, 0⟩⟩)
  have full : clampSpeed (1 : ℝ) = 1 := clampSpeed_of_mem zero_le_one le_rfl
  have begun : h.simulator = { Simulator.withSpeed (.standard : ArmModel ℝ) 1 with
      speedScale := 1
      running := some (.begin ⟨"turn"⟩ (.motion halfTurn)) } := by
    have taken := @Simulator.enqueue_turn (.withSpeed .standard 1) rfl rfl rfl rfl
    have scale : (Simulator.withSpeed (.standard : ArmModel ℝ) 1).speedScale = 1 := full
    rw [scale] at taken
    exact History.after_enqueue taken
  have model : h.simulator.model = .standard := by rw [begun]; rfl
  have scale : h.simulator.speedScale = 1 := by rw [begun]
  have way : OnWay h.simulator ⟨"turn"⟩ halfTurn 0 := by
    have start : Underway h.simulator ⟨"turn"⟩ halfTurn 0.0 := by
      refine .begin (congrArg Simulator.running begun) Scalar.zero_real ?_ ?_
      · rw [begun]
        rfl
      · rw [model, scale]
        rfl
    refine ⟨halfTurn, 0.0, start, ⟨rfl, rfl, rfl⟩, ?_⟩
    rw [start.progress_eq, Scalar.zero_real, zero_div]
  have ticked := @OnWay.after h _ _ _ (.tick (part * (Real.pi / 2))) way rfl
  rw [model, scale, share_halfTurn low, zero_add] at ticked
  have kept := @History.scale_after h (.tick (part * (Real.pi / 2))) rfl
  exact ⟨(ticked high).1, kept.trans scale⟩

/-- What the shoulder turns by in the middle of half a turn, that much to either side. -/
theorem middle_of_turn {side : ℝ} (low : 0 ≤ side) (high : side < 1 / 2) :
    ((turning (1 / 2 - side)).simulator.tick (2 * side * (Real.pi / 2))).angles.shoulder -
        (turning (1 / 2 - side)).simulator.angles.shoulder =
      Real.pi * (3 * side - 4 * side ^ 3) := by
  obtain ⟨way, scale⟩ := @onWay_turning (1 / 2 - side) (by linarith) (by linarith)
  have model : (turning (1 / 2 - side)).simulator.model = .standard := History.model_run _ _ _
  have ticked := @OnWay.after _ _ _ _ (.tick (2 * side * (Real.pi / 2))) way rfl
  rw [model, scale, share_halfTurn (by linarith)] at ticked
  have later := (ticked (by linarith)).1.angles
  have slope := smoothstep_sub (u := 1 / 2 - side) (v := 1 / 2 - side + 2 * side) (by linarith)
    (by linarith) (by linarith)
  have formula (done : ℝ) : (halfTurn.start.lerp halfTurn.target (smoothstep done)).shoulder =
      Real.pi * smoothstep done := by
    have home : halfTurn.start = ⟨0, 0⟩ := JointPair.home_real
    rw [home]
    change 0 + (Real.pi - 0) * smoothstep done = Real.pi * smoothstep done
    ring
  have ends : ((turning (1 / 2 - side)).simulator.tick (2 * side * (Real.pi / 2))).angles =
      halfTurn.start.lerp halfTurn.target (smoothstep (1 / 2 - side + 2 * side)) := later
  rw [ends, way.angles, formula, formula, ← mul_sub, slope]
  ring

/-- A short tick in the middle of the turn exceeds every smaller factor than 3/2. -/
theorem exists_turn_exceeding {factor : ℝ} (small : factor < 3 / 2) :
    ∃ part dt, factor * 2 * max dt 0 <
        |((turning part).simulator.tick dt).angles.shoulder -
          (turning part).simulator.angles.shoulder| ∧
      (turning part).simulator.speedScale = 1 := by
  -- A quarter of the turn to either side is short enough for every factor below 1.
  obtain ⟨side, positive, quarter, close⟩ : ∃ side : ℝ, 0 < side ∧ side ≤ 1 / 4 ∧
      side ≤ (3 - 2 * factor) / 4 :=
    ⟨min (1 / 4) ((3 - 2 * factor) / 4), lt_min (by norm_num) (by linarith), min_le_left _ _,
      min_le_right _ _⟩
  have square : 2 * factor < 3 - 4 * side ^ 2 := by nlinarith
  have time : max (2 * side * (Real.pi / 2)) 0 = side * Real.pi := by
    rw [max_eq_left (by positivity)]
    ring
  obtain ⟨-, scale⟩ := @onWay_turning (1 / 2 - side) (by linarith) (by linarith)
  refine ⟨1 / 2 - side, 2 * side * (Real.pi / 2), ?_, scale⟩
  rw [time, middle_of_turn positive.le (by linarith)]
  calc factor * 2 * (side * Real.pi) = side * Real.pi * (2 * factor) := by ring
    _ < side * Real.pi * (3 - 4 * side ^ 2) :=
      mul_lt_mul_of_pos_left square (mul_pos positive Real.pi_pos)
    _ = Real.pi * (3 * side - 4 * side ^ 3) := by ring
    _ ≤ |Real.pi * (3 * side - 4 * side ^ 3)| := le_abs_self _

/-! ## The bound -/

/-- In one tick each joint moves by at most one and a half times what the speed of the arm, at the
speed scale in force, lets it move by in the time that passes. No other operation moves the joints,
apart from the return to the start. With any smaller factor the bound is wrong: a tick in the
middle of a long motion exceeds it. -/
theorem joint_speed_bounded :
    (∀ (m : ArmModel ℝ) (speed : ℝ) (operations : List (Operation ℝ)), m.Accepted →
      let h := (History.start (.withSpeed m speed)).run operations
      let pace := m.maxSpeed * max 0.05 (min 1 h.simulator.speedScale)
      (∀ dt, let t := h.after (.tick dt)
        |t.simulator.angles.shoulder - h.simulator.angles.shoulder| ≤ 3 / 2 * pace * max dt 0 ∧
        |t.simulator.angles.elbow - h.simulator.angles.elbow| ≤ 3 / 2 * pace * max dt 0) ∧
      ∀ operation, (∀ dt, operation ≠ .tick dt) → operation ≠ .hardReset →
        (h.after operation).simulator.angles = h.simulator.angles) ∧
    ∀ factor < (3 / 2 : ℝ), ∃ (m : ArmModel ℝ) (speed : ℝ) (operations : List (Operation ℝ))
        (dt : ℝ), m.Accepted ∧
      let h := (History.start (.withSpeed m speed)).run operations
      let pace := m.maxSpeed * max 0.05 (min 1 h.simulator.speedScale)
      factor * pace * max dt 0 <
        |(h.after (.tick dt)).simulator.angles.shoulder - h.simulator.angles.shoulder| := by
  constructor
  · intro m speed operations accepted h pace
    refine ⟨fun dt => ?_, fun operation still kept => h.angles_after still kept⟩
    have model : h.simulator.model = m := History.model_run m speed operations
    obtain ⟨-, -, -, -, positive⟩ := ArmModel.accepted_real.1 accepted
    have timed : h.simulator.IsTimed := .run m speed operations
    have near := timed.near_tick (model.symm ▸ positive) dt
    rw [model] at near
    exact near
  · intro factor small
    obtain ⟨part, dt, fast, scale⟩ := exists_turn_exceeding small
    refine ⟨.standard, 1, turn part, dt, ArmModel.accepted_standard, ?_⟩
    intro h pace
    have same : pace = 2 := (congrArg ArmModel.standard.pace scale).trans ArmModel.pace_standard
    rw [same]
    exact fast

/-- The standard arm on its way through half a turn, and at the end of it. -/
theorem joint_speed_bounded_turn :
    let h := (History.start (.withSpeed (.standard : ArmModel ℝ) 1)).run (turn (1 / 2))
    (ArmModel.standard : ArmModel ℝ).Accepted ∧
      |(h.after (.tick (Real.pi / 4))).simulator.angles.shoulder -
        h.simulator.angles.shoulder| ≤ 3 / 2 * 2 * (Real.pi / 4) ∧
      (h.after .stop).simulator.angles = h.simulator.angles ∧
      ∃ (m : ArmModel ℝ) (speed : ℝ) (operations : List (Operation ℝ)) (dt : ℝ), m.Accepted ∧
        let t := (History.start (.withSpeed m speed)).run operations
        m.maxSpeed * max 0.05 (min 1 t.simulator.speedScale) * max dt 0 <
          |(t.after (.tick dt)).simulator.angles.shoulder - t.simulator.angles.shoulder| := by
  intro h
  obtain ⟨bounded, sharp⟩ := joint_speed_bounded
  obtain ⟨ticks, others⟩ := bounded .standard 1 (turn (1 / 2)) ArmModel.accepted_standard
  obtain ⟨-, scale⟩ := @onWay_turning (1 / 2) (by norm_num) (by norm_num)
  have pace : (ArmModel.standard : ArmModel ℝ).maxSpeed *
      max 0.05 (min 1 h.simulator.speedScale) = 2 :=
    (congrArg ArmModel.standard.pace scale).trans ArmModel.pace_standard
  have time : max (Real.pi / 4) 0 = Real.pi / 4 := max_eq_left (by positivity)
  obtain ⟨shoulder, -⟩ := ticks (Real.pi / 4)
  rw [pace, time] at shoulder
  obtain ⟨m, speed, operations, dt, accepted, fast⟩ := sharp 1 (by norm_num)
  refine ⟨ArmModel.accepted_standard, shoulder, others .stop nofun nofun, m, speed, operations, dt,
    accepted, ?_⟩
  simp only [one_mul] at fast
  exact fast

end PlanarArm
