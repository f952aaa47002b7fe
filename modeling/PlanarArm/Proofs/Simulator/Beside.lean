import PlanarArm.Proofs.Motion
import PlanarArm.Proofs.Simulator.History

/-!
# Calls beside the queue

The speed scale is set and the path is forgotten beside the queue of commands. It does not matter
whether that is done before or after a command is handed in, not even if the command starts, fails
or is replaced in that moment: then a motion is planned at the new speed in one order, and planned
at the old speed and timed anew in the other.

A change beside the queue (`Simulator.Beside`) leaves alone what waits and whether a command runs,
and may be made before or after the start of a command. Then it may be made before or after the
whole start loop (`Simulator.Beside.startNext`) and a submission (`Simulator.Beside.enqueue`), too.

* `Simulator.beside_withPath`: the path is such a matter, in every number system.
* `Simulator.beside_setSpeed`: in exact numbers, the speed scale is one.
* `History.run_submissions_first`: of submissions and calls beside the queue, all submissions may
  come first.
* `side_channels_commute`: each call beside the queue, with a submission and with the other calls.
-/

namespace PlanarArm

/-! ## Changes beside the queue -/

namespace Simulator

variable {α : Type} [Scalar α]

/-- The change leaves alone what waits and whether a command runs, and it may be made before or after
the start of a command. -/
structure Beside (change : Simulator α → Simulator α) : Prop where
  busy (s : Simulator α) : (change s).isBusy = s.isBusy
  queue (s : Simulator α) : (change s).queue = s.queue
  setQueue (s : Simulator α) (q : CommandQueue α) :
    change { s with queue := q } = { change s with queue := q }
  start (s : Simulator α) (c : Command α) : change (s.start c) = (change s).start c

namespace Beside

variable {change : Simulator α → Simulator α} {s : Simulator α}

theorem running_of_idle (beside : Beside change) (idle : s.running = none) :
    (change s).running = none := by
  have still := beside.busy s
  rwa [isBusy, isBusy, idle, Option.isSome_none, Option.isSome_eq_false_iff,
    Option.isNone_iff_eq_none] at still

theorem running_of_busy {r : Running α} (beside : Beside change) (busy : s.running = some r) :
    ∃ other, (change s).running = some other := by
  have still := beside.busy s
  rwa [isBusy, isBusy, busy, Option.isSome_some, Option.isSome_iff_exists] at still

/-- The change may be made before or after the start loop, however many commands that takes up. -/
theorem startNext (beside : Beside change) (s : Simulator α) :
    change s.startNext = (change s).startNext := by
  induction s using Simulator.startNext.induct with
  | case1 s r busy =>
    obtain ⟨other, still⟩ := beside.running_of_busy busy
    rw [startNext_of_running busy, startNext_of_running still]
  | case2 s idle empty =>
    have still : (change s).queue.pop? = none := by rw [beside.queue, empty]
    rw [startNext_of_empty idle empty, startNext_of_empty (beside.running_of_idle idle) still]
  | case3 s idle c rest next ih =>
    have still : (change s).queue.pop? = some (c, rest) := by rw [beside.queue, next]
    rw [startNext_of_next idle next, startNext_of_next (beside.running_of_idle idle) still, ih,
      beside.start, beside.setQueue s rest]

/-- The change may be made before or after a command is handed in, and the answer is the same. -/
theorem enqueue (beside : Beside change) (s : Simulator α) (c : Command α) :
    (change s).enqueue c = (s.enqueue c).map change := by
  unfold Simulator.enqueue
  cases c.kind.check with
  | error e => rfl
  | ok _ =>
    dsimp only [Except.map]
    rw [beside.startNext, beside.setQueue s (s.queue.push c), beside.queue]

end Beside

/-! ### The path -/

/-- The simulator with another path. -/
def withPath {α : Type} (s : Simulator α) (path : Toolpath α) : Simulator α :=
  { s with path := path }

/-- No command looks at the path when it starts. -/
theorem beside_withPath (path : Toolpath α) : Beside fun s : Simulator α => s.withPath path where
  busy _ := rfl
  queue _ := rfl
  setQueue _ _ := rfl
  start s c := by
    have plan : (s.withPath path).plan c = s.plan c := rfl
    unfold Simulator.start
    rw [plan]
    cases s.plan c <;> rfl

theorem beside_resetPath : Beside (Simulator.resetPath (α := α)) :=
  beside_withPath .empty

end Simulator

/-! ### The speed scale -/

/-- The start of a command at another speed scale. -/
def Start.retime {α : Type} [Scalar α] (m : ArmModel α) (scale : α) : Start α → Start α
  | .run (.motion p) => .run (.motion (p.retime m 0.0 scale).1)
  | start => start

theorem Simulator.plan_setSpeed {α : Type} [Scalar α] (s : Simulator α) (value : α)
    (c : Command α) :
    (s.setSpeed value).plan c = (s.plan c).retime s.model (clampSpeed value) := by
  have model : (s.setSpeed value).model = s.model := rfl
  unfold plan
  rw [model]
  split
  · rfl
  · split <;> rfl
  · split <;> rfl
  · rfl
  · rfl
  · rfl

namespace Motion

theorem progress_real (p : Motion ℝ) (elapsed : ℝ) :
    p.progress elapsed = max 0 (min 1 (elapsed / p.duration)) := by
  have order : (0.0 : ℝ) ≤ 1.0 := by norm_num
  refine (Scalar.clamp_real order _).trans ?_
  rw [Scalar.zero_real, Scalar.one_real]

theorem progress_mem (p : Motion ℝ) (elapsed : ℝ) :
    0 ≤ p.progress elapsed ∧ p.progress elapsed ≤ 1 := by
  rw [progress_real]
  exact ⟨le_max_left _ _, max_le zero_le_one (min_le_left _ _)⟩

/-- A new timing keeps the progress, whatever that is. -/
theorem progress_retime (p : Motion ℝ) (m : ArmModel ℝ) (elapsed scale : ℝ) :
    (p.retime m elapsed scale).1.progress (p.retime m elapsed scale).2 = p.progress elapsed := by
  have positive : 0 < (p.retime m elapsed scale).1.duration := motionTime_pos _ _ _ _
  have later : (p.retime m elapsed scale).2 =
      p.progress elapsed * (p.retime m elapsed scale).1.duration := rfl
  obtain ⟨low, high⟩ := p.progress_mem elapsed
  rw [progress_real, later, mul_div_cancel_right₀ _ positive.ne', min_eq_right high,
    max_eq_right low]

theorem progress_zero (p : Motion ℝ) : p.progress 0 = 0 := by
  rw [progress_real, zero_div, min_eq_right zero_le_one, max_self]

end Motion

namespace Running

/-- A motion that has just started and is timed anew is one that has just started. -/
theorem retime_begin (id : CommandId) (p : Motion ℝ) (m : ArmModel ℝ) (scale : ℝ) :
    (Running.begin id (.motion p)).retime m scale =
      .begin id (.motion (p.retime m 0.0 scale).1) := by
  have none : (p.retime m 0.0 scale).2 = 0.0 := by
    have formula : (p.retime m 0.0 scale).2 =
        p.progress 0.0 * (p.retime m 0.0 scale).1.duration := rfl
    rw [formula, Scalar.zero_real, p.progress_zero, zero_mul]
  exact congrArg (Running.mk id _) none

/-- Of two new timings only the second one counts. -/
theorem retime_retime (r : Running ℝ) (m : ArmModel ℝ) (first second : ℝ) :
    (r.retime m first).retime m second = r.retime m second := by
  obtain ⟨id, activity, elapsed⟩ := r
  cases activity with
  | sleep duration => rfl
  | motion p =>
    have kept := p.progress_retime m elapsed first
    exact congrArg (fun part => Running.mk id _ (part * motionTime m p.start p.target second)) kept

end Running

namespace Simulator

theorem start_setSpeed (s : Simulator ℝ) (value : ℝ) (c : Command ℝ) :
    (s.start c).setSpeed value = (s.setSpeed value).start c := by
  unfold start
  rw [plan_setSpeed]
  cases s.plan c with
  | expand commands => rfl
  | settle result => rfl
  | run activity =>
    cases activity with
    | sleep duration => rfl
    | motion p =>
      have begun := Running.retime_begin c.id p s.model (clampSpeed value)
      exact congrArg (fun r => { s.setSpeed value with running := some r }) begun

/-- A command that starts at one speed scale and goes on at another might have started at that. -/
theorem beside_setSpeed (value : ℝ) : Beside fun s : Simulator ℝ => s.setSpeed value where
  busy _ := Option.isSome_map
  queue _ := rfl
  setQueue _ _ := rfl
  start s c := s.start_setSpeed value c

theorem setSpeed_setSpeed (s : Simulator ℝ) (first second : ℝ) :
    (s.setSpeed first).setSpeed second = s.setSpeed second := by
  unfold setSpeed
  dsimp only
  rw [Option.map_map]
  congr 2
  funext r
  exact r.retime_retime s.model _ _

end Simulator

/-! ## Operations -/

/-- Whether the operation is a call beside the queue. -/
def Operation.isBeside {α : Type} : Operation α → Bool
  | .setSpeed _ | .resetPath => true
  | _ => false

namespace History

theorem after_enqueue_of_beside {α : Type} [Scalar α] {change : Simulator α → Simulator α}
    (beside : Simulator.Beside change) (h : History α) (c : Command α) :
    ({ h with simulator := change h.simulator } : History α).after (.enqueue c) =
      { h.after (.enqueue c) with simulator := change (h.after (.enqueue c)).simulator } := by
  unfold after
  dsimp only
  rw [beside.enqueue]
  cases h.simulator.enqueue c <;> rfl

/-- A call beside the queue may come before or after a submission. -/
theorem after_enqueue_comm (h : History ℝ) (c : Command ℝ) {call : Operation ℝ}
    (beside : call.isBeside = true) :
    (h.after call).after (.enqueue c) = (h.after (.enqueue c)).after call := by
  cases call with
  | setSpeed value => exact after_enqueue_of_beside (Simulator.beside_setSpeed value) h c
  | resetPath => exact after_enqueue_of_beside Simulator.beside_resetPath h c
  | _ => cases beside

/-- And so it may come before or after any number of submissions. -/
theorem run_enqueue_comm (h : History ℝ) (commands : List (Command ℝ)) {call : Operation ℝ}
    (beside : call.isBeside = true) :
    (h.after call).run (commands.map .enqueue) = (h.run (commands.map .enqueue)).after call := by
  induction commands generalizing h with
  | nil => rfl
  | cons c rest ih =>
    rw [List.map_cons, run_cons, run_cons, h.after_enqueue_comm c beside, ih]

/-- Of submissions and calls beside the queue, in whatever order they come, all submissions may come
first. -/
theorem run_submissions_first (h : History ℝ) {calls : List (Operation ℝ)}
    (only : ∀ call ∈ calls, call.isBeside = true ∨ ∃ c, call = .enqueue c) :
    ∃ commands : List (Command ℝ),
      calls.filter (fun call => !call.isBeside) = commands.map .enqueue ∧
      h.run calls = (h.run (commands.map .enqueue)).run (calls.filter Operation.isBeside) := by
  induction calls generalizing h with
  | nil => exact ⟨[], rfl, rfl⟩
  | cons call rest ih =>
    obtain ⟨first, others⟩ := List.forall_mem_cons.1 only
    obtain ⟨commands, submitted, same⟩ := ih (h.after call) others
    rcases first with beside | ⟨c, rfl⟩
    · refine ⟨commands, ?_, ?_⟩
      · simp [beside, submitted]
      · rw [run_cons, same, h.run_enqueue_comm commands beside,
          List.filter_cons_of_pos beside, run_cons]
    · refine ⟨c :: commands, ?_, ?_⟩
      · rw [List.filter_cons_of_pos rfl, submitted, List.map_cons]
      · rw [run_cons, same, List.filter_cons_of_neg Bool.false_ne_true, List.map_cons, run_cons]

end History

/-- In exact numbers, and whatever an arm has been through: a submission and a change of the speed
scale give the same answer and leave the same behind, in either order. So do a submission and the
loss of the path, and so do the two calls beside the queue; and of two changes of the speed scale
only the second one counts. -/
theorem side_channels_commute (h : History ℝ) :
    (∀ c value,
      (h.simulator.setSpeed value).enqueue c = (h.simulator.enqueue c).map (·.setSpeed value) ∧
      (h.after (.setSpeed value)).after (.enqueue c) =
        (h.after (.enqueue c)).after (.setSpeed value)) ∧
    (∀ c,
      h.simulator.resetPath.enqueue c = (h.simulator.enqueue c).map Simulator.resetPath ∧
      (h.after .resetPath).after (.enqueue c) = (h.after (.enqueue c)).after .resetPath) ∧
    (∀ value,
      (h.after .resetPath).after (.setSpeed value) =
        (h.after (.setSpeed value)).after .resetPath) ∧
    ∀ first second,
      (h.after (.setSpeed first)).after (.setSpeed second) = h.after (.setSpeed second) := by
  refine ⟨fun c value => ⟨?_, h.after_enqueue_comm c rfl⟩,
    fun c => ⟨?_, h.after_enqueue_comm c rfl⟩, fun value => rfl, fun first second => ?_⟩
  · exact (Simulator.beside_setSpeed value).enqueue h.simulator c
  · exact Simulator.beside_resetPath.enqueue h.simulator c
  · have last := h.simulator.setSpeed_setSpeed first second
    exact congrArg (fun s => { h with simulator := s }) last

end PlanarArm
