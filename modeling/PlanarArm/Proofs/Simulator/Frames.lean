import Mathlib.Algebra.BigOperators.Group.List.Basic
import PlanarArm.Proofs.Simulator.Beside
import PlanarArm.Proofs.Simulator.Gap
import PlanarArm.Proofs.Simulator.Pace
import PlanarArm.Proofs.Simulator.Trace

/-!
# Time in frames of any length

In exact numbers it does not matter in how many ticks a time passes, as long as a command that ends
does so in the last of them: a running command keeps nothing of time but its sum, and what is over
at its end is lost either way. Only the path of the hand tells the difference, since each tick of a
motion leaves a point.

* `Simulator.pass_pass`: two times that pass, while the command goes on after the first.
* `History.after_tick_tick`: two ticks, of which the first reports nothing.
* `History.run_ticks`: any number of ticks, of which all but the last report nothing.
* `History.path_ticks`: what they leave of the path.
* `frame_rate_independent`: all of it together, in every state of every run.
-/

namespace PlanarArm

/-! ## Two ticks -/

theorem Running.after_after (r : Running ℝ) (first second : ℝ) :
    (r.after first).after second = r.after (first + second) :=
  congrArg (Running.mk r.id r.activity) (add_assoc r.elapsed first second)

namespace Simulator

theorem tickTime_of_nonneg {dt : ℝ} (forward : 0 ≤ dt) : tickTime dt = dt := by
  rw [tickTime_real, max_eq_left forward]

section

variable {α : Type} [Scalar α] {s : Simulator α} {r : Running α}

/-- A tick that reports nothing leaves the running command running. -/
theorem pass_of_quiet (busy : s.running = some r) {dt : α}
    (quiet : (s.tick dt).outbox = s.outbox) :
    s.tick dt = s.pass dt ∧ (s.pass dt).running = some (r.after (tickTime dt)) := by
  rw [tick_eq] at quiet ⊢
  obtain ⟨-, ⟨goes, -⟩ | ⟨-, e, told⟩⟩ := pass_cases busy dt
  · exact ⟨startNext_of_running goes, goes⟩
  · obtain ⟨new, later, -⟩ := (s.pass dt).startNext_passes
    have longer := congrArg List.length later
    rw [quiet, told] at longer
    simp at longer

end

section

variable {s : Simulator ℝ} {r : Running ℝ} {first second : ℝ}

/-- The second time finds the command as it would be if both had passed at once, and whatever that
does then it does from the same state. If it is a motion, both leave the joints where it says. -/
theorem pass_pass (busy : s.running = some r) (early : 0 ≤ first) (late : 0 ≤ second)
    (goes : (s.pass first).running = some (r.after (tickTime first))) :
    (s.pass first).pass second =
      (s.pass (first + second)).withPath ((s.pass first).pass second).path := by
  have both : (r.after first).after second = r.after (first + second) :=
    r.after_after first second
  unfold pass at goes ⊢
  rw [busy] at goes ⊢
  dsimp only at goes ⊢
  rw [tickTime_of_nonneg early, tickTime_of_nonneg late, tickTime_of_nonneg (add_nonneg early late)]
    at *
  cases before : (r.after first).stage with
  | waiting =>
    dsimp only
    rw [both]
    cases (r.after (first + second)).stage <;> rfl
  | moved angles =>
    obtain ⟨p, u, motion, -⟩ := Running.motion_of_moved before
    dsimp only [place]
    rw [both]
    cases after : (r.after (first + second)).stage with
    | waiting =>
      obtain ⟨duration, sleep⟩ := Running.sleep_of_waiting after
      cases motion.symm.trans sleep
    | moved further => rfl
    | arrived further completion => rfl
    | elapsed =>
      obtain ⟨duration, sleep⟩ := Running.sleep_of_elapsed after
      cases motion.symm.trans sleep
  | arrived angles completion =>
    rw [before] at goes
    cases goes
  | elapsed =>
    rw [before] at goes
    cases goes

theorem tick_tick (settled : s.Settled) (early : 0 ≤ first) (late : 0 ≤ second)
    (quiet : (s.tick first).outbox = s.outbox) :
    (s.tick first).tick second =
      (s.tick (first + second)).withPath ((s.tick first).tick second).path := by
  cases busy : s.running with
  | none =>
    rw [tick_of_idle settled busy, tick_of_idle settled busy, tick_of_idle settled busy]
    rfl
  | some r =>
    obtain ⟨ticked, goes⟩ := pass_of_quiet busy quiet
    rw [ticked, tick_eq, pass_pass busy early late goes, tick_eq]
    -- What is taken up after the second time does not look at the path.
    have started := (beside_withPath ((s.pass first).pass second).path).startNext
      (s.pass (first + second))
    rw [← started]
    rfl

end

end Simulator

/-! ## Any number of ticks -/

namespace History

/-- The history with another path. -/
def withPath {α : Type} (h : History α) (path : Toolpath α) : History α :=
  { h with simulator := h.simulator.withPath path }

theorem outbox_of_quiet {α : Type} [Scalar α] {h : History α} {dt : α}
    (quiet : (h.after (.tick dt)).emitted = h.emitted) :
    (h.simulator.tick dt).outbox = h.simulator.outbox :=
  Array.toList_inj.1 (List.append_cancel_left quiet)

theorem after_tick_tick {h : History ℝ} (settled : h.simulator.Settled) {first second : ℝ}
    (early : 0 ≤ first) (late : 0 ≤ second)
    (quiet : (h.after (.tick first)).emitted = h.emitted) :
    (h.after (.tick first)).after (.tick second) =
      (h.after (.tick (first + second))).withPath
        ((h.after (.tick first)).after (.tick second)).simulator.path := by
  have ticked := Simulator.tick_tick settled early late (outbox_of_quiet quiet)
  exact congrArg (fun s => (⟨s, h.accepted, h.collected⟩ : History ℝ)) ticked

/-- Of the first of several ticks and of the others, what is asked of all of them. -/
theorem quiet_cons {α : Type} [Scalar α] {h : History α} {first second : α} {rest : List α}
    (quiet : ∀ k < (first :: second :: rest).length,
      (h.run (((first :: second :: rest).take k).map .tick)).emitted = h.emitted) :
    (h.after (.tick first)).emitted = h.emitted ∧
      ∀ k < (second :: rest).length,
        ((h.after (.tick first)).run (((second :: rest).take k).map .tick)).emitted =
          (h.after (.tick first)).emitted := by
  have one : (h.after (.tick first)).emitted = h.emitted := quiet 1 (by simp)
  refine ⟨one, fun k within => ?_⟩
  rw [one]
  exact quiet (k + 1) (Nat.succ_lt_succ within)

/-- Ticks of which all but the last report nothing leave the same behind as one tick of their sum,
but for the path. -/
theorem run_ticks {h : History ℝ} (settled : h.simulator.Settled) {dt : ℝ} {rest : List ℝ}
    (forward : ∀ d ∈ dt :: rest, 0 ≤ d)
    (quiet : ∀ k < (dt :: rest).length,
      (h.run (((dt :: rest).take k).map .tick)).emitted = h.emitted) :
    h.run ((dt :: rest).map .tick) =
      (h.after (.tick (dt :: rest).sum)).withPath
        (h.run ((dt :: rest).map .tick)).simulator.path := by
  -- The first tick takes the others one state further, so the state varies.
  induction rest generalizing h dt with
  | nil =>
    rw [List.sum_singleton]
    rfl
  | cons next rest ih =>
    obtain ⟨early, others⟩ := List.forall_mem_cons.1 forward
    obtain ⟨one, later⟩ := quiet_cons quiet
    have late : 0 ≤ (next :: rest).sum := List.sum_nonneg others
    have further := ih (settled.after (.tick dt)) others later
    rw [List.map_cons, run_cons, further, after_tick_tick settled early late one, List.sum_cons]
    rfl

/-! ### The path -/

section

variable {α : Type} [Scalar α]

/-- Where the hand is after each of several ticks. -/
def trail (h : History α) : List α → List (Point α)
  | [] => []
  | dt :: rest =>
    (h.after (.tick dt)).simulator.placement.hand :: (h.after (.tick dt)).trail rest

theorem length_trail (h : History α) (dts : List α) : (h.trail dts).length = dts.length := by
  induction dts generalizing h with
  | nil => rfl
  | cons dt rest ih => rw [trail, List.length_cons, List.length_cons, ih]

theorem trail_snoc (h : History α) (dts : List α) (dt : α) :
    h.trail (dts ++ [dt]) =
      h.trail dts ++ [(h.run ((dts ++ [dt]).map .tick)).simulator.placement.hand] := by
  induction dts generalizing h with
  | nil => rfl
  | cons first rest ih =>
    rw [List.cons_append, trail, trail, ih, List.map_cons, run_cons, List.cons_append]

/-- A tick that reports nothing does not change whether a motion is under way. -/
theorem moves_of_quiet {h : History α} (settled : h.simulator.Settled) {dt : α}
    (quiet : (h.after (.tick dt)).emitted = h.emitted) :
    (h.after (.tick dt)).simulator.moves = h.simulator.moves := by
  have ticked : (h.after (.tick dt)).simulator = h.simulator.tick dt := rfl
  rw [ticked]
  cases busy : h.simulator.running with
  | none => rw [Simulator.tick_of_idle settled busy]
  | some r =>
    obtain ⟨passed, goes⟩ := Simulator.pass_of_quiet busy (outbox_of_quiet quiet)
    rw [passed, Simulator.moves_of_running goes, Simulator.moves_of_running busy]
    rfl

/-- Each tick of a motion leaves the point at which the hand then is, and no other tick leaves
any. -/
theorem path_ticks {h : History α} (settled : h.simulator.Settled) {dt : α} {rest : List α}
    (quiet : ∀ k < (dt :: rest).length,
      (h.run (((dt :: rest).take k).map .tick)).emitted = h.emitted) :
    (h.simulator.moves = true → (h.run ((dt :: rest).map .tick)).simulator.path.toList =
        h.simulator.path.toList ++ h.trail (dt :: rest)) ∧
      (h.simulator.moves = false →
        (h.run ((dt :: rest).map .tick)).simulator.path = h.simulator.path) := by
  induction rest generalizing h dt with
  | nil =>
    have left := h.simulator.tick_path dt
    refine ⟨fun moving => ?_, fun still => ?_⟩
    · rw [moving, if_pos rfl] at left
      exact (congrArg Toolpath.toList left).trans (Toolpath.toList_push _ _)
    · rw [still, if_neg Bool.false_ne_true] at left
      exact left
  | cons next rest ih =>
    obtain ⟨one, later⟩ := quiet_cons quiet
    have left := h.simulator.tick_path dt
    obtain ⟨moved, rested⟩ := ih (settled.after (.tick dt)) later
    rw [moves_of_quiet settled one] at moved rested
    refine ⟨fun moving => ?_, fun still => ?_⟩
    · rw [moving, if_pos rfl] at left
      have point : (h.after (.tick dt)).simulator.path.toList = _ :=
        (congrArg Toolpath.toList left).trans (Toolpath.toList_push _ _)
      rw [List.map_cons, run_cons, moved moving, point, List.append_assoc]
      rfl
    · rw [still, if_neg Bool.false_ne_true] at left
      rw [List.map_cons, run_cons, rested still]
      exact left

end

end History

/-- In exact numbers, in every state of every run: let a time pass in any number of ticks, none of
which but perhaps the last one completes the running command, which is to say that none of the
others reports anything. Then everything is as if it had passed in one tick, but for the path: the
joints, the running command and the time that it has run, the queue, the speed scale, all reports
that have been made. If a motion was under way, the path has one more point for each of the ticks but
the last one, before the point that the one tick leaves; otherwise the paths are the same, too. -/
theorem frame_rate_independent (m : ArmModel ℝ) (speed : ℝ) (before : List (Operation ℝ))
    {dts : List ℝ} (nonempty : dts ≠ []) (forward : ∀ dt ∈ dts, 0 ≤ dt) :
    let h := (History.start (.withSpeed m speed)).run before
    let parts := h.run (dts.map .tick)
    let whole := h.after (.tick dts.sum)
    (∀ k < dts.length, (h.run ((dts.take k).map .tick)).emitted = h.emitted) →
    parts = whole.withPath parts.simulator.path ∧
    (h.simulator.moves = true →
      ∃ extra hand, extra.length = dts.length - 1 ∧
        parts.simulator.path.toList = h.simulator.path.toList ++ extra ++ [hand] ∧
        whole.simulator.path.toList = h.simulator.path.toList ++ [hand]) ∧
    (h.simulator.moves = false → parts.simulator.path = whole.simulator.path) := by
  intro h parts whole quiet
  have settled : h.simulator.Settled := .run m speed before
  obtain ⟨dt, rest, rfl⟩ := List.exists_cons_of_ne_nil nonempty
  have same : parts = whole.withPath parts.simulator.path := History.run_ticks settled forward quiet
  have hand : parts.simulator.placement.hand = whole.simulator.placement.hand := by
    rw [same]
    rfl
  obtain ⟨moved, rested⟩ := History.path_ticks settled quiet
  have left := h.simulator.tick_path (dt :: rest).sum
  refine ⟨same, fun moving => ?_, fun still => ?_⟩
  · refine ⟨h.trail (dt :: rest).dropLast, whole.simulator.placement.hand, ?_, ?_, ?_⟩
    · rw [History.length_trail, List.length_dropLast]
    · have trail := h.trail_snoc (dt :: rest).dropLast ((dt :: rest).getLast nonempty)
      rw [List.dropLast_append_getLast nonempty] at trail
      rw [moved moving, trail, ← List.append_assoc, ← hand]
    · rw [moving, if_pos rfl] at left
      exact (congrArg Toolpath.toList left).trans (Toolpath.toList_push _ _)
  · rw [still, if_neg Bool.false_ne_true] at left
    exact (rested still).trans left.symm

/-- What is left of half a turn after its first quarter, in two quarters and a longer tick that
completes it. -/
theorem frame_rate_independent_turn :
    let quarter := 1 / 4 * (Real.pi / 2)
    let dts := [quarter, quarter, Real.pi]
    let h := (History.start (.withSpeed .standard 1)).run (turn (1 / 4))
    let parts := h.run (dts.map .tick)
    let whole := h.after (.tick dts.sum)
    (∀ k < dts.length, (h.run ((dts.take k).map .tick)).emitted = h.emitted) ∧
      whole.emitted ≠ h.emitted ∧
      parts = whole.withPath parts.simulator.path ∧
      ∃ extra hand, extra.length = 2 ∧
        parts.simulator.path.toList = h.simulator.path.toList ++ extra ++ [hand] ∧
        whole.simulator.path.toList = h.simulator.path.toList ++ [hand] := by
  intro quarter dts h parts whole
  have positive : 0 ≤ quarter := by positivity
  obtain ⟨way, scale⟩ := @onWay_turning (1 / 4) (by norm_num) (by norm_num)
  have moving : h.simulator.moves = true := by
    obtain ⟨q, elapsed, under, -⟩ := way
    exact Simulator.moves_of_running under.running
  have model : h.simulator.model = .standard := History.model_run _ _ _
  change h.simulator.speedScale = 1 at scale
  have part : Operation.share .standard halfTurn.start halfTurn.target 1 (.tick quarter) = 1 / 4 :=
    share_halfTurn (by norm_num)
  have quiet : ∀ k < dts.length, (h.run ((dts.take k).map .tick)).emitted = h.emitted := by
    intro k within
    refine (way.run model scale ?_ ?_).2.1
    · intro operation ticks
      obtain ⟨dt, -, rfl⟩ := List.mem_map.1 ticks
      rfl
    · obtain rfl | rfl | rfl : k = 0 ∨ k = 1 ∨ k = 2 := by
        have short : k < 3 := within
        omega
      all_goals norm_num [dts, progressSum, part, Operation.scale]
  have told : whole.emitted ≠ h.emitted := by
    have sum : dts.sum = 5 / 2 * (Real.pi / 2) := by
      simp only [dts, quarter, List.sum_cons, List.sum_nil]
      ring
    have share : Operation.share h.simulator.model halfTurn.start halfTurn.target
        h.simulator.speedScale (.tick dts.sum) = 5 / 2 := by
      rw [model, scale, sum]
      exact share_halfTurn (by norm_num)
    have long : (1 : ℝ) ≤ 1 / 4 + 5 / 2 := by norm_num
    obtain ⟨-, ⟨rest, reported⟩, -⟩ := way.arrive rfl (long.trans_eq (congrArg _ share.symm))
    intro same
    exact List.cons_ne_nil _ _ (List.append_right_eq_self.1 (reported.symm.trans same))
  obtain ⟨same, moved, -⟩ := @frame_rate_independent .standard 1 (turn (1 / 4)) dts
    (List.cons_ne_nil _ _) (by simp [dts, positive, Real.pi_pos.le]) quiet
  exact ⟨quiet, told, same, moved moving⟩

end PlanarArm
