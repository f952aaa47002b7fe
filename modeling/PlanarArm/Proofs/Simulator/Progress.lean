import PlanarArm.Proofs.Motion
import PlanarArm.Proofs.Simulator.Order

/-!
# The progress of a motion

In exact numbers, each tick takes a motion forward by the part of its duration that passes, at the
speed scale in force at that tick (`progressSum`). The invariant that carries this over changes of
the speed scale is `Underway`: elapsed time and duration belong to the speed scale of the moment,
their ratio is the progress, and the joints are where the progress says.

* `Simulator.IsTimed.run`: every motion that runs is under way, in every state of every run.
* `OnWay.after`: an operation that aborts nothing takes the motion forward.
* `OnWay.arrive`: only a tick ends a motion, and it does when the progress reaches 1.
* `motion_progress`: all of it together, for a motion that has just been started.
-/

namespace PlanarArm

/-! ## Motions in a simulator -/

/-- A motion under way: its duration is the one for the speed scale in force, it has not run out,
and the joints are as far as its progress says. -/
structure Underway (s : Simulator ℝ) (id : CommandId) (p : Motion ℝ) (elapsed : ℝ) : Prop where
  running : s.running = some ⟨id, .motion p, elapsed⟩
  duration : p.duration = motionTime s.model p.start p.target s.speedScale
  low : 0 ≤ elapsed
  high : elapsed < p.duration
  angles : s.angles = p.start.lerp p.target (smoothstep (p.progress elapsed))

/-- Every motion that runs is under way. -/
def Simulator.IsTimed (s : Simulator ℝ) : Prop :=
  ∀ id p elapsed, s.running = some ⟨id, .motion p, elapsed⟩ → Underway s id p elapsed

theorem Motion.duration_pos {s : Simulator ℝ} {p : Motion ℝ}
    (duration : p.duration = motionTime s.model p.start p.target s.speedScale) : 0 < p.duration :=
  duration ▸ motionTime_pos _ _ _ _

theorem Simulator.tickTime_real (dt : ℝ) : Simulator.tickTime dt = max dt 0 := by
  unfold Simulator.tickTime
  rw [Scalar.isFinite_real, if_pos rfl, Scalar.maxNum_real, Scalar.zero_real]

theorem Simulator.plan_motion {α : Type} [Scalar α] {s : Simulator α} {c : Command α}
    {p : Motion α} (plan : s.plan c = .run (.motion p)) :
    p.start = s.angles ∧ p.duration = motionTime s.model p.start p.target s.speedScale := by
  unfold Simulator.plan Simulator.motionTo at plan
  split at plan
  · cases plan
    exact ⟨rfl, rfl⟩
  · split at plan
    · cases plan
      exact ⟨rfl, rfl⟩
    · cases plan
  · split at plan
    · cases plan
      exact ⟨rfl, rfl⟩
    · cases plan
  · cases plan
  · cases plan
  · cases plan

namespace Underway

variable {s : Simulator ℝ} {id : CommandId} {p : Motion ℝ} {elapsed : ℝ}

theorem duration_pos (under : Underway s id p elapsed) : 0 < p.duration :=
  Motion.duration_pos under.duration

theorem progress_eq (under : Underway s id p elapsed) : p.progress elapsed = elapsed / p.duration :=
  Motion.progress_of_lt under.low under.high

theorem progress_lt (under : Underway s id p elapsed) : p.progress elapsed < 1 := by
  rw [under.progress_eq]
  exact (div_lt_one under.duration_pos).2 under.high

theorem begin (running : s.running = some ⟨id, .motion p, elapsed⟩) (zero : elapsed = 0)
    (start : p.start = s.angles)
    (duration : p.duration = motionTime s.model p.start p.target s.speedScale) :
    Underway s id p elapsed := by
  have positive := Motion.duration_pos duration
  subst zero
  refine ⟨running, duration, le_rfl, positive, ?_⟩
  rw [Motion.progress_of_lt le_rfl positive, zero_div, smoothstep_zero, JointPair.lerp_zero, start]

theorem of_same {t : Simulator ℝ} (under : Underway s id p elapsed)
    (running : t.running = s.running) (model : t.model = s.model) (angles : t.angles = s.angles)
    (scale : t.speedScale = s.speedScale) : Underway t id p elapsed := by
  obtain ⟨same, duration, low, high, place⟩ := under
  refine ⟨running.trans same, ?_, low, high, angles.trans place⟩
  rw [model, scale]
  exact duration

/-! ### Time -/

/-- Where a motion stands once more time has passed. -/
theorem stage_of_lt (under : Underway s id p elapsed) {dt : ℝ}
    (short : elapsed + max dt 0 < p.duration) :
    (Running.after ⟨id, .motion p, elapsed⟩ (Simulator.tickTime dt)).stage =
      .moved (p.start.lerp p.target (smoothstep (p.progress (elapsed + max dt 0)))) := by
  have later : 0 ≤ elapsed + max dt 0 := add_nonneg under.low (le_max_right dt 0)
  have part : p.progress (elapsed + max dt 0) < 1 := by
    rw [Motion.progress_of_lt later short]
    exact (div_lt_one under.duration_pos).2 short
  have going : ¬(1.0 : ℝ) ≤ p.progress (elapsed + max dt 0) := by
    rw [Scalar.one_real]
    exact not_le.2 part
  rw [Simulator.tickTime_real, ← Motion.anglesAt_of_lt part]
  exact if_neg going

theorem stage_of_le (under : Underway s id p elapsed) {dt : ℝ}
    (long : p.duration ≤ elapsed + max dt 0) :
    (Running.after ⟨id, .motion p, elapsed⟩ (Simulator.tickTime dt)).stage =
      .arrived p.target p.completion := by
  have done : (1.0 : ℝ) ≤ p.progress (elapsed + max dt 0) := by
    rw [Scalar.one_real, Motion.progress_of_le under.duration_pos long]
  rw [Simulator.tickTime_real]
  exact if_pos done

theorem tick_of_lt (under : Underway s id p elapsed) {dt : ℝ}
    (short : elapsed + max dt 0 < p.duration) :
    s.tick dt = { s with running := some ⟨id, .motion p, elapsed + max dt 0⟩ }.place
      (p.start.lerp p.target (smoothstep (p.progress (elapsed + max dt 0)))) := by
  have stage := under.stage_of_lt short
  unfold Simulator.tick Simulator.advance
  rw [under.running]
  dsimp only
  rw [stage, Simulator.tickTime_real]
  rfl

theorem tick_of_le (under : Underway s id p elapsed) {dt : ℝ}
    (long : p.duration ≤ elapsed + max dt 0) :
    s.tick dt = ({ s with running := some ⟨id, .motion p, elapsed + max dt 0⟩ }.place
      p.target).finish id (.ok p.completion) := by
  have stage := under.stage_of_le long
  unfold Simulator.tick Simulator.advance
  rw [under.running]
  dsimp only
  rw [stage, Simulator.tickTime_real]
  rfl

theorem move (under : Underway s id p elapsed) {dt : ℝ} (short : elapsed + max dt 0 < p.duration) :
    Underway ({ s with running := some ⟨id, .motion p, elapsed + max dt 0⟩ }.place
      (p.start.lerp p.target (smoothstep (p.progress (elapsed + max dt 0))))) id p
      (elapsed + max dt 0) :=
  ⟨rfl, under.duration, add_nonneg under.low (le_max_right dt 0), short, rfl⟩

/-! ### Speed -/

/-- A change of the speed scale changes the duration and keeps the progress. -/
theorem setSpeed (under : Underway s id p elapsed) (value : ℝ) :
    Underway (s.setSpeed value) id (p.retime s.model elapsed (clampSpeed value)).1
        (p.retime s.model elapsed (clampSpeed value)).2 ∧
      (p.retime s.model elapsed (clampSpeed value)).1.progress
        (p.retime s.model elapsed (clampSpeed value)).2 = p.progress elapsed := by
  have low : 0 ≤ p.progress elapsed := by
    rw [under.progress_eq]
    exact div_nonneg under.low under.duration_pos.le
  obtain ⟨start, left, kept⟩ :=
    Motion.retime_progress low under.progress_lt s.model (clampSpeed value)
  refine ⟨⟨?_, rfl, start, left, ?_⟩, kept⟩
  · unfold Simulator.setSpeed
    dsimp only
    rw [under.running]
    rfl
  · rw [kept]
    exact under.angles

end Underway

/-! ## Every motion that runs is under way -/

namespace Simulator.IsTimed

theorem of_idle {s : Simulator ℝ} (idle : s.running = none) : s.IsTimed :=
  fun _ _ _ running => nomatch idle.symm.trans running

theorem of_same {s t : Simulator ℝ} (timed : s.IsTimed) (running : t.running = s.running)
    (model : t.model = s.model) (angles : t.angles = s.angles)
    (scale : t.speedScale = s.speedScale) : t.IsTimed := by
  intro id p elapsed busy
  exact (timed id p elapsed (running.symm.trans busy)).of_same running model angles scale

theorem step {s t : Simulator ℝ} (step : s.Step t) (timed : s.IsTimed) : t.IsTimed := by
  cases step with
  | @begin c rest activity idle next plan =>
    intro id p elapsed running
    cases activity with
    | sleep duration => cases running
    | motion q =>
      obtain ⟨start, duration⟩ := plan_motion plan
      cases running
      exact .begin rfl Scalar.zero_real start duration
  | replace idle next plan => exact of_idle idle
  | settle idle next plan => exact of_idle idle
  | @wait r dt busy stage =>
    intro id p elapsed running
    obtain ⟨name, activity, before⟩ := r
    cases activity with
    | sleep duration => cases running
    | motion q =>
      have under := timed name q before busy
      rcases lt_or_ge (before + max dt 0) q.duration with short | long
      · cases stage.symm.trans (under.stage_of_lt short)
      · cases stage.symm.trans (under.stage_of_le long)
  | @move r angles dt busy stage =>
    intro id p elapsed running
    obtain ⟨name, activity, before⟩ := r
    cases activity with
    | sleep duration => cases running
    | motion q =>
      have under := timed name q before busy
      rcases lt_or_ge (before + max dt 0) q.duration with short | long
      · have moved := under.move short
        cases stage.symm.trans (under.stage_of_lt short)
        cases running
        rw [← tickTime_real] at moved ⊢
        exact moved
      · cases stage.symm.trans (under.stage_of_le long)
  | arrive dt busy stage => exact of_idle rfl
  | elapse dt busy stage => exact of_idle rfl

theorem setSpeed {s : Simulator ℝ} (timed : s.IsTimed) (value : ℝ) : (s.setSpeed value).IsTimed := by
  intro id p elapsed running
  unfold Simulator.setSpeed at running
  obtain ⟨⟨name, activity, before⟩, busy, retimed⟩ := Option.map_eq_some_iff.1 running
  cases activity with
  | sleep duration => cases retimed
  | motion q =>
    cases retimed
    exact ((timed name q before busy).setSpeed value).1

theorem invariant : Simulator.Invariant Simulator.IsTimed where
  step := step
  push c timed := timed.of_same rfl rfl rfl rfl
  setSpeed value timed := timed.setSpeed value
  resetPath timed := timed.of_same rfl rfl rfl rfl
  stop timed := by
    rw [Simulator.stop_eq]
    exact of_idle rfl
  hardReset timed := by
    rw [Simulator.hardReset_eq]
    exact of_idle rfl
  drain timed := timed.of_same rfl rfl rfl rfl

theorem after {h : History ℝ} (timed : h.simulator.IsTimed) (operation : Operation ℝ) :
    (h.after operation).simulator.IsTimed :=
  invariant.after timed operation

theorem run (m : ArmModel ℝ) (speed : ℝ) (operations : List (Operation ℝ)) :
    ((History.start (.withSpeed m speed)).run operations).simulator.IsTimed :=
  invariant.run (of_idle rfl) operations

end Simulator.IsTimed

/-! ## Progress -/

namespace Operation

/-- The part of a motion from `a` to `b` that passes in an operation, at a speed scale. -/
noncomputable def share (m : ArmModel ℝ) (a b : JointPair ℝ) (scale : ℝ) : Operation ℝ → ℝ
  | .tick dt => max dt 0 / motionTime m a b scale
  | _ => 0

/-- The speed scale after an operation that aborts nothing. -/
noncomputable def scale (before : ℝ) : Operation ℝ → ℝ
  | .setSpeed value => clampSpeed value
  | _ => before

theorem share_nonneg (m : ArmModel ℝ) (a b : JointPair ℝ) (scale : ℝ) (operation : Operation ℝ) :
    0 ≤ operation.share m a b scale := by
  cases operation with
  | tick dt => exact div_nonneg (le_max_right dt 0) (motionTime_pos m a b scale).le
  | _ => exact le_rfl

theorem share_of_other {m : ArmModel ℝ} {a b : JointPair ℝ} {scale : ℝ} {operation : Operation ℝ}
    (other : ∀ dt, operation ≠ .tick dt) : operation.share m a b scale = 0 := by
  cases operation with
  | tick dt => exact absurd rfl (other dt)
  | _ => rfl

end Operation

/-- The parts of a motion from `a` to `b` that pass in operations, each at the speed scale that is
then in force; `scale` is the first one. -/
noncomputable def progressSum (m : ArmModel ℝ) (a b : JointPair ℝ) (scale : ℝ) :
    List (Operation ℝ) → ℝ
  | [] => 0
  | operation :: later =>
    operation.share m a b scale + progressSum m a b (operation.scale scale) later

theorem progressSum_nonneg (m : ArmModel ℝ) (a b : JointPair ℝ) (scale : ℝ)
    (later : List (Operation ℝ)) : 0 ≤ progressSum m a b scale later := by
  induction later generalizing scale with
  | nil => exact le_rfl
  | cons operation rest ih => exact add_nonneg (operation.share_nonneg m a b scale) (ih _)

theorem progressSum_snoc (m : ArmModel ℝ) (a b : JointPair ℝ) (scale : ℝ)
    (later : List (Operation ℝ)) (operation : Operation ℝ) :
    progressSum m a b scale (later ++ [operation]) = progressSum m a b scale later +
      operation.share m a b (later.foldl Operation.scale scale) := by
  induction later generalizing scale with
  | nil => exact add_comm _ _
  | cons first rest ih => rw [List.cons_append, progressSum, ih, progressSum, add_assoc]; rfl

/-- An operation that aborts nothing changes the speed scale as it says. -/
theorem History.scale_after (h : History ℝ) {operation : Operation ℝ}
    (calm : operation.aborts = false) :
    (h.after operation).simulator.speedScale = operation.scale h.simulator.speedScale := by
  cases operation with
  | enqueue c =>
    unfold History.after
    dsimp only
    split
    · next t taken => exact (Simulator.steps_of_enqueue taken).kept.2
    · rfl
  | tick dt => exact (Simulator.steps_tick h.simulator dt).kept.2
  | setSpeed value => rfl
  | resetPath => rfl
  | stop => cases calm
  | hardReset => cases calm
  | drain => rfl

/-- The motion `p` runs, timed for the speed scale of the moment, and has made the progress
`done`. -/
def OnWay (s : Simulator ℝ) (id : CommandId) (p : Motion ℝ) (done : ℝ) : Prop :=
  ∃ q elapsed, Underway s id q elapsed ∧
    (q.start = p.start ∧ q.target = p.target ∧ q.branch = p.branch) ∧ q.progress elapsed = done

namespace OnWay

variable {h : History ℝ} {id : CommandId} {p : Motion ℝ} {done : ℝ} {operation : Operation ℝ}

theorem done_lt (way : OnWay h.simulator id p done) : done < 1 := by
  obtain ⟨q, elapsed, under, -, rfl⟩ := way
  exact under.progress_lt

/-- What a tick adds to the progress is the part of the duration that passes. -/
theorem add_share {s : Simulator ℝ} {q : Motion ℝ} {elapsed : ℝ} (under : Underway s id q elapsed)
    (dt : ℝ) :
    q.progress elapsed + Operation.share s.model q.start q.target s.speedScale (.tick dt) =
      (elapsed + max dt 0) / q.duration := by
  rw [under.progress_eq, Operation.share, ← under.duration, add_div]

theorem tick {dt : ℝ} (way : OnWay h.simulator id p done)
    (short : done + Operation.share h.simulator.model p.start p.target h.simulator.speedScale
      (.tick dt) < 1) :
    OnWay (h.after (.tick dt)).simulator id p (done +
        Operation.share h.simulator.model p.start p.target h.simulator.speedScale (.tick dt)) ∧
      (h.after (.tick dt)).emitted = h.emitted := by
  obtain ⟨q, elapsed, under, ⟨start, target, branch⟩, rfl⟩ := way
  rw [← start, ← target, add_share under] at short ⊢
  have left : elapsed + max dt 0 < q.duration := (div_lt_one under.duration_pos).1 short
  have moved := under.move left
  rw [← under.tick_of_lt left] at moved
  refine ⟨⟨q, elapsed + max dt 0, moved, ⟨start, target, branch⟩, moved.progress_eq⟩, ?_⟩
  have ticked : (h.after (.tick dt)).simulator.outbox = h.simulator.outbox := by
    rw [History.after, under.tick_of_lt left]
    rfl
  exact congrArg (fun outbox => h.collected ++ outbox.toList) ticked

theorem of_same {t : Simulator ℝ} (way : OnWay h.simulator id p done)
    (running : t.running = h.simulator.running) (model : t.model = h.simulator.model)
    (angles : t.angles = h.simulator.angles) (scale : t.speedScale = h.simulator.speedScale) :
    OnWay t id p done := by
  obtain ⟨q, elapsed, under, same, progress⟩ := way
  exact ⟨q, elapsed, under.of_same running model angles scale, same, progress⟩

theorem still (way : OnWay h.simulator id p done) (calm : operation.aborts = false)
    (other : ∀ dt, operation ≠ .tick dt) :
    OnWay (h.after operation).simulator id p done ∧ (h.after operation).emitted = h.emitted := by
  cases operation with
  | enqueue c =>
    unfold History.after
    dsimp only
    split
    · next t taken =>
      obtain ⟨q, elapsed, under, same, progress⟩ := way
      cases Simulator.enqueue_of_running under.running taken
      exact ⟨⟨q, elapsed, under.of_same rfl rfl rfl rfl, same, progress⟩, rfl⟩
    · exact ⟨way, rfl⟩
  | tick dt => exact absurd rfl (other dt)
  | setSpeed value =>
    obtain ⟨q, elapsed, under, same, rfl⟩ := way
    obtain ⟨further, kept⟩ := under.setSpeed value
    exact ⟨⟨_, _, further, same, kept⟩, rfl⟩
  | resetPath => exact ⟨way.of_same rfl rfl rfl rfl, rfl⟩
  | stop => cases calm
  | hardReset => cases calm
  | drain => exact ⟨way.of_same rfl rfl rfl rfl, h.emitted_drain⟩

theorem after (way : OnWay h.simulator id p done) (calm : operation.aborts = false)
    (short : done + operation.share h.simulator.model p.start p.target h.simulator.speedScale < 1) :
    OnWay (h.after operation).simulator id p (done +
        operation.share h.simulator.model p.start p.target h.simulator.speedScale) ∧
      (h.after operation).emitted = h.emitted := by
  by_cases ticks : ∃ dt, operation = .tick dt
  · obtain ⟨dt, rfl⟩ := ticks
    exact way.tick short
  · have other : ∀ dt, operation ≠ .tick dt := fun dt same => ticks ⟨dt, same⟩
    rw [Operation.share_of_other other, add_zero]
    exact way.still calm other

theorem run {m : ArmModel ℝ} {scale : ℝ} {later : List (Operation ℝ)}
    (way : OnWay h.simulator id p done) (model : h.simulator.model = m)
    (pace : h.simulator.speedScale = scale)
    (calm : ∀ operation ∈ later, operation.aborts = false)
    (short : done + progressSum m p.start p.target scale later < 1) :
    OnWay (h.run later).simulator id p (done + progressSum m p.start p.target scale later) ∧
      (h.run later).emitted = h.emitted ∧ (h.run later).simulator.model = m ∧
      (h.run later).simulator.speedScale = later.foldl Operation.scale scale := by
  -- The sum starts from the first operation, so the progress made before it varies.
  induction later generalizing h done scale with
  | nil =>
    rw [progressSum, add_zero]
    exact ⟨way, rfl, model, pace⟩
  | cons operation rest ih =>
    have first := calm operation List.mem_cons_self
    have same := h.model_after operation
    have next := h.scale_after first
    rw [progressSum, ← add_assoc] at short ⊢
    have left := progressSum_nonneg m p.start p.target (operation.scale scale) rest
    have part := way.after first
    rw [model, pace] at part
    rw [pace] at next
    obtain ⟨further, quiet⟩ := part (by linarith)
    obtain ⟨way, told, kept⟩ := ih further (same.trans model) next
      (fun op mem => calm op (List.mem_cons_of_mem _ mem)) short
    exact ⟨way, told.trans quiet, kept⟩

/-- The end of a motion is reported before anything else, and it leaves the joints at the target. -/
theorem finish {q : Motion ℝ} {elapsed dt : ℝ} (under : Underway h.simulator id q elapsed)
    (long : q.duration ≤ elapsed + max dt 0) :
    (∃ rest, (h.after (.tick dt)).emitted = h.emitted ++ ⟨id, .ok q.completion⟩ :: rest) ∧
      (h.after (.tick dt)).simulator.angles = q.target := by
  have ticked : (h.after (.tick dt)).simulator =
      (({ h.simulator with running := none }.place q.target).emit id
        (.ok q.completion)).startNext := under.tick_of_le long
  refine ⟨?_, ?_⟩
  · obtain ⟨new, appended, -⟩ := Simulator.Reports.of_steps (Simulator.steps_startNext
      (({ h.simulator with running := none }.place q.target).emit id (.ok q.completion)))
    rw [← ticked] at appended
    refine ⟨new, ?_⟩
    have collected : (h.after (.tick dt)).collected = h.collected := rfl
    rw [History.emitted, collected, appended, History.emitted]
    simp [Simulator.emit, Simulator.place]
  · rw [ticked, Simulator.startNext_angles]
    rfl

/-- Only a tick ends a motion. It reports the end and leaves the joints at the target. -/
theorem arrive (way : OnWay h.simulator id p done) (calm : operation.aborts = false)
    (long : 1 ≤ done +
      operation.share h.simulator.model p.start p.target h.simulator.speedScale) :
    (∃ dt, operation = .tick dt) ∧
      (∃ rest, (h.after operation).emitted = h.emitted ++ ⟨id, .ok p.completion⟩ :: rest) ∧
      (h.after operation).simulator.angles = p.target := by
  by_cases ticks : ∃ dt, operation = .tick dt
  · refine ⟨ticks, ?_⟩
    obtain ⟨dt, rfl⟩ := ticks
    obtain ⟨q, elapsed, under, ⟨start, target, branch⟩, rfl⟩ := way
    rw [← start, ← target, add_share under] at long
    have past : q.duration ≤ elapsed + max dt 0 := (one_le_div₀ under.duration_pos).1 long
    have completion : q.completion = p.completion := by
      rw [Motion.completion, branch, Motion.completion]
    rw [← completion, ← target]
    exact finish under past
  · have other : ∀ dt, operation ≠ .tick dt := fun dt same => ticks ⟨dt, same⟩
    rw [Operation.share_of_other other, add_zero] at long
    exact absurd way.done_lt (not_lt.2 long)

end OnWay

/-! ## Half a turn of the standard arm -/

/-- Half a turn of the shoulder takes the standard arm `π / (2 s)` seconds at the speed scale
`s`. -/
theorem motionTime_turn {scale : ℝ} (low : 0.05 ≤ scale) (high : scale ≤ 1) :
    motionTime (.standard : ArmModel ℝ) ⟨0, 0⟩ ⟨Real.pi, 0⟩ scale = Real.pi / (2 * scale) := by
  have positive : 0 < scale := by linarith
  have speed : Scalar.clamp (0.05 : ℝ) 1.0 scale = scale :=
    Scalar.clamp_of_mem low (high.trans_eq Scalar.one_real.symm)
  have formula : motionTime (.standard : ArmModel ℝ) ⟨0, 0⟩ ⟨Real.pi, 0⟩ scale =
      Scalar.maxNum (Scalar.maxNum (Scalar.abs (Real.pi - 0)) (Scalar.abs (0 - 0)) /
        ((2.0 : ℝ) * Scalar.clamp (0.05 : ℝ) 1.0 scale)) 0.08 := rfl
  have way : max |Real.pi - 0| |(0 : ℝ) - 0| = Real.pi := by
    rw [sub_zero, sub_zero, abs_zero, abs_of_pos Real.pi_pos]
    exact max_eq_left Real.pi_pos.le
  have two : (2.0 : ℝ) = 2 := by norm_num
  have long : (0.08 : ℝ) ≤ Real.pi / (2 * scale) := by
    rw [le_div_iff₀ (by linarith)]
    linarith [Real.two_le_pi]
  rw [formula, speed, Scalar.maxNum_real, Scalar.maxNum_real, Scalar.abs_real, Scalar.abs_real, way,
    two]
  exact max_eq_left long

theorem clamp_turn :
    (ArmModel.standard : ArmModel ℝ).clamp? ((⟨180, 0⟩ : JointPair ℝ).map Scalar.ofDegrees) =
      some ⟨Real.pi, 0⟩ := by
  have shoulder : Scalar.ofDegrees (180 : ℝ) = Real.pi := by
    rw [Scalar.ofDegrees_real]
    ring
  have elbow : Scalar.ofDegrees (0 : ℝ) = 0 := by
    rw [Scalar.ofDegrees_real, zero_mul]
  have less : Scalar.ofDegrees (-150.0 : ℝ) ≤ 0 := by
    rw [Scalar.ofDegrees_real]
    nlinarith [Real.pi_pos]
  have more : 0 ≤ Scalar.ofDegrees (150.0 : ℝ) := by
    rw [Scalar.ofDegrees_real]
    positivity
  unfold ArmModel.clamp? JointPair.map
  dsimp only
  rw [shoulder, elbow]
  have first : (ArmModel.standard : ArmModel ℝ).shoulder.clamp? Real.pi = some Real.pi :=
    JointRange.clamp?_of_mem (neg_le_self Real.pi_pos.le) le_rfl
  have second : (ArmModel.standard : ArmModel ℝ).elbow.clamp? 0 = some 0 :=
    JointRange.clamp?_of_mem less more
  rw [first, second]

theorem share_turn {scale : ℝ} (low : 0.05 ≤ scale) (high : scale ≤ 1) :
    Operation.share .standard .home ⟨Real.pi, 0⟩ scale (.tick (Real.pi / 4)) = scale / 2 := by
  have time : max (Real.pi / 4) 0 = Real.pi / 4 := max_eq_left (by positivity)
  have positive : 0 < scale := by linarith
  have turn := Real.pi_pos
  rw [Operation.share, time, JointPair.home_real, motionTime_turn low high]
  field_simp
  norm_num

theorem Simulator.enqueue_turn {s : Simulator ℝ} (model : s.model = .standard)
    (angles : s.angles = .home) (idle : s.running = none) (empty : s.queue = .empty) :
    s.enqueue ⟨⟨"turn"⟩, .setJoints ⟨180, 0⟩⟩ = .ok { s with
      running := some (.begin ⟨"turn"⟩
        (.motion (.timed .standard .home ⟨Real.pi, 0⟩ s.speedScale none))) } := by
  have valid : (CommandKind.setJoints (⟨180, 0⟩ : JointPair ℝ)).check = .ok () := by
    simp [CommandKind.check, CommandKind.fault?, CommandKind.numbers]
  refine Simulator.enqueue_of_idle idle empty valid ?_
  unfold Simulator.plan Simulator.motionTo
  dsimp only
  rw [model, clamp_turn, angles]

/-! ## The law of progress -/

/-- The law of progress. A motion that has just been started starts where the joints are. While
operations follow that abort nothing, let the sum of the parts of its duration that pass in them be
below 1: then it still runs, timed for the speed scale of the moment; the sum is its progress, the
joints are where that says, and nothing has been reported. The operation that brings the sum to 1
is a tick; it reports the end of the motion first of all and leaves the joints at the target. And a
change of the speed scale moves nothing and ends nothing. -/
theorem motion_progress (m : ArmModel ℝ) (speed : ℝ) (before : List (Operation ℝ))
    (id : CommandId) (p : Motion ℝ)
    (started : ((History.start (.withSpeed m speed)).run before).simulator.running =
      some (.begin id (.motion p))) :
    let h := (History.start (.withSpeed m speed)).run before
    let sum := progressSum m p.start p.target h.simulator.speedScale
    p.start = h.simulator.angles ∧
      (∀ later : List (Operation ℝ), (∀ operation ∈ later, operation.aborts = false) →
        sum later < 1 →
        let t := h.run later
        (∃ q elapsed, t.simulator.running = some ⟨id, .motion q, elapsed⟩ ∧
          (q.start = p.start ∧ q.target = p.target ∧ q.branch = p.branch) ∧
          q.duration = motionTime m p.start p.target t.simulator.speedScale ∧
          q.progress elapsed = sum later ∧
          t.simulator.angles = p.start.lerp p.target (smoothstep (sum later))) ∧
        t.emitted = h.emitted ∧
        (∀ operation, operation.aborts = false → 1 ≤ sum (later ++ [operation]) →
          (∃ dt, operation = .tick dt) ∧
          (∃ rest, (t.after operation).emitted = t.emitted ++ ⟨id, .ok p.completion⟩ :: rest) ∧
          (t.after operation).simulator.angles = p.target)) ∧
      ∀ (t : History ℝ) (value : ℝ),
        (t.after (.setSpeed value)).simulator.angles = t.simulator.angles ∧
          (t.after (.setSpeed value)).simulator.current = t.simulator.current ∧
          (t.after (.setSpeed value)).simulator.queue = t.simulator.queue ∧
          (t.after (.setSpeed value)).emitted = t.emitted := by
  intro h sum
  have model : h.simulator.model = m := History.model_run m speed before
  have under : Underway h.simulator id p 0.0 :=
    Simulator.IsTimed.run m speed before id p 0.0 started
  have none : p.progress 0.0 = 0 := by
    rw [under.progress_eq, Scalar.zero_real, zero_div]
  have start : p.start = h.simulator.angles := by
    rw [under.angles, none, smoothstep_zero, JointPair.lerp_zero]
  refine ⟨start, fun later calm short => ?_, fun t value => ⟨rfl, ?_, rfl, rfl⟩⟩
  case refine_2 => exact t.simulator.setSpeed_current value
  have way : OnWay h.simulator id p 0 := ⟨p, 0.0, under, ⟨rfl, rfl, rfl⟩, none⟩
  rw [← zero_add (sum later)] at short
  obtain ⟨further, told, same, pace⟩ := way.run model rfl calm short
  rw [zero_add] at further
  refine ⟨?_, told, fun operation peace long => ?_⟩
  · obtain ⟨q, elapsed, going, ⟨first, last, branch⟩, progress⟩ := further
    refine ⟨q, elapsed, going.running, ⟨first, last, branch⟩, ?_, progress, ?_⟩
    · rw [going.duration, first, last, same]
    · rw [going.angles, first, last, progress]
  · refine further.arrive peace ?_
    rw [same, pace]
    have total : 1 ≤ sum later +
        operation.share m p.start p.target (later.foldl Operation.scale h.simulator.speedScale) :=
      (progressSum_snoc m p.start p.target h.simulator.speedScale later operation) ▸ long
    exact total

/-- Half a turn of the standard arm, at full speed for a part of the time and at half of it for the
rest. -/
theorem motion_progress_turn :
    let h := (History.start (.withSpeed (.standard : ArmModel ℝ) 1)).run
      [.enqueue ⟨⟨"turn"⟩, .setJoints ⟨180, 0⟩⟩]
    let t := h.run [.tick (Real.pi / 4), .setSpeed (1 / 2), .tick (Real.pi / 4)]
    (∃ p, h.simulator.running = some (.begin ⟨"turn"⟩ (.motion p))) ∧
    (∃ q elapsed, t.simulator.running = some ⟨⟨"turn"⟩, .motion q, elapsed⟩ ∧
      q.progress elapsed = 3 / 4) ∧
    (t.after (.tick (Real.pi / 4))).simulator.angles = ⟨Real.pi, 0⟩ := by
  intro h t
  have begun : h.simulator = { Simulator.withSpeed (.standard : ArmModel ℝ) 1 with
      running := some (.begin ⟨"turn"⟩ (.motion
        (.timed .standard .home ⟨Real.pi, 0⟩ (clampSpeed 1) none))) } :=
    History.after_enqueue (Simulator.enqueue_turn rfl rfl rfl rfl)
  have started : h.simulator.running = some (.begin ⟨"turn"⟩ (.motion
      (.timed .standard .home ⟨Real.pi, 0⟩ (clampSpeed 1) none))) :=
    congrArg Simulator.running begun
  have scale : h.simulator.speedScale = 1 := by
    rw [begun]
    exact clampSpeed_of_mem zero_le_one le_rfl
  have slow : clampSpeed (1 / 2 : ℝ) = 1 / 2 := clampSpeed_of_mem (by norm_num) (by norm_num)
  have half := share_turn (by norm_num) (le_refl 1)
  have quarter := @share_turn (1 / 2) (by norm_num) (by norm_num)
  have part : progressSum .standard .home ⟨Real.pi, 0⟩ h.simulator.speedScale
      [.tick (Real.pi / 4), .setSpeed (1 / 2), .tick (Real.pi / 4)] = 3 / 4 := by
    simp only [progressSum, Operation.scale, scale, slow, half, quarter]
    norm_num [Operation.share]
  have whole : progressSum .standard .home ⟨Real.pi, 0⟩ h.simulator.speedScale
      ([.tick (Real.pi / 4), .setSpeed (1 / 2), .tick (Real.pi / 4)] ++ [.tick (Real.pi / 4)]) =
        1 := by
    simp only [progressSum_snoc, part, List.foldl_cons, List.foldl_nil, Operation.scale, slow,
      quarter]
    norm_num
  obtain ⟨-, course, -⟩ := motion_progress .standard 1 _ _ _ started
  obtain ⟨⟨q, elapsed, running, -, -, progress, -⟩, -, ends⟩ :=
    course [.tick (Real.pi / 4), .setSpeed (1 / 2), .tick (Real.pi / 4)]
      (by simp [Operation.aborts]) (part.trans_lt (by norm_num))
  obtain ⟨-, -, place⟩ := ends (.tick (Real.pi / 4)) rfl whole.ge
  exact ⟨⟨_, started⟩, ⟨q, elapsed, running, progress.trans part⟩, place⟩
end PlanarArm
