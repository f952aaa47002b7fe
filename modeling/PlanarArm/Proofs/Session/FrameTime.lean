import PlanarArm.Proofs.Session.FrameClock
import PlanarArm.Proofs.Session.Calm
import PlanarArm.Proofs.Simulator.Frames

/-!
# The time of a session

Frames move the clock of a session on, and hard resets put it back. So each frame lets its simulator
go on for what has gone by since the frame before it, within the limit of the clock, and for nothing
if there has been none since the last hard reset.

## Main results

* `Journal.clock_run_of_calm`: without an abort, only frames have an effect on the clock.
* `Journal.Fresh.frameTime`: what the time is that a frame lets pass.
* `Journal.Fresh.passed_le`: several frames let no more time pass than goes by.
-/

namespace PlanarArm

variable {α : Type}

/-- The moments of the frames among actions. -/
def instants (actions : List (Action α)) : List Nat :=
  actions.filterMap fun
    | .frame now => some now
    | _ => none

theorem instants_append (actions later : List (Action α)) :
    instants (actions ++ later) = instants actions ++ instants later :=
  List.filterMap_append

theorem eq_frame_of_instants {action : Action α} {now : Nat} {rest : List Nat}
    (moments : instants [action] = now :: rest) : action = .frame now ∧ rest = [] := by
  cases action with
  | frame later =>
    cases moments
    exact ⟨rfl, rfl⟩
  | request r => cases moments
  | finish => cases moments

variable [Scalar α]

/-- What an action does to the clock. -/
theorem Session.clock_step (s : Session α) (action : Action α) :
    (s.step action).1.clock = match action with
      | .frame now => (s.clock.step now).2
      | .request (.hardReset _) => s.clock.reset
      | _ => s.clock := by
  cases action with
  | frame now => rfl
  | request r =>
    cases r with
    | submit c ticket =>
      cases verdict : s.refusal? c with
      | some e => rw [step_of_refusal verdict]
      | none =>
        obtain ⟨t, allowed, enqueued, -⟩ := submit_of_accepted verdict ticket
        rw [step_submit allowed enqueued]
        rfl
    | setSpeed value => rfl
    | resetPath => rfl
    | stop ack => rfl
    | hardReset ack => rfl
  | finish => rfl

namespace Journal

theorem maxStep_run (j : Journal α) (actions : List (Action α)) :
    (j.run actions).session.clock.maxStep = j.session.clock.maxStep := by
  induction actions generalizing j with
  | nil => rfl
  | cons action rest ih =>
    rw [run_cons, ih, after, Session.clock_step]
    cases action with
    | frame now => rfl
    | request r => cases r <;> rfl
    | finish => rfl

theorem clock_after_of_calm {j : Journal α} {action : Action α} (calm : action.aborts = false) :
    (j.after action).session.clock = j.session.clock.through (instants [action]) := by
  rw [after, Session.clock_step]
  cases action with
  | frame now => rfl
  | request r =>
    cases r with
    | hardReset ack => cases calm
    | _ => rfl
  | finish => cases calm

/-- As long as nothing is aborted, frames have an effect on the clock and nothing else. -/
theorem clock_run_of_calm {j : Journal α} {actions : List (Action α)}
    (calm : ∀ action ∈ actions, action.aborts = false) :
    (j.run actions).session.clock = j.session.clock.through (instants actions) := by
  induction actions generalizing j with
  | nil => rfl
  | cons action rest ih =>
    obtain ⟨first, others⟩ := List.forall_mem_cons.1 calm
    rw [run_cons, ih others, clock_after_of_calm first, ← FrameClock.through_append,
      ← instants_append, List.singleton_append]

/-- Apart from frames only hard resets have an effect on the clock. -/
theorem clock_run_of_still {j : Journal α} {actions : List (Action α)}
    (still : instants actions = []) (kept : ∀ ack, .request (.hardReset ack) ∉ actions) :
    (j.run actions).session.clock = j.session.clock := by
  induction actions generalizing j with
  | nil => rfl
  | cons action rest ih =>
    rw [← List.singleton_append, instants_append, List.append_eq_nil_iff] at still
    rw [run_cons, ih still.2 fun ack mem => kept ack (.tail _ mem), after, Session.clock_step]
    cases action with
    | frame now => cases still.1
    | request r =>
      cases r with
      | hardReset ack => exact absurd List.mem_cons_self (kept ack)
      | _ => rfl
    | finish => rfl

/-- The clock knows the moment of the last frame, or none. -/
theorem last_run {j : Journal α} (fresh : j.session.clock.last = none)
    (actions : List (Action α)) :
    (j.run actions).session.clock.last = none ∨
      (j.run actions).session.clock.last = (instants actions).getLast? := by
  induction actions using List.reverseRecOn with
  | nil => exact .inl fresh
  | append_singleton actions action ih =>
    rw [run_append, run_cons, run_nil, after, Session.clock_step, instants_append]
    cases action with
    | frame now => exact .inr List.getLast?_concat.symm
    | request r =>
      cases r with
      | hardReset ack => exact .inl rfl
      | _ => simpa [instants] using ih
    | finish => simpa [instants] using ih

end Journal

/-! ## What a frame lets pass -/

/-- What the time is that a frame at the moment `now` lets pass after these actions. -/
structure FrameTime (limit : ℝ) (before : List (Action ℝ)) (now : Nat) (dt : ℝ) : Prop where
  /-- It is between nothing and the limit of the clock. -/
  nonneg : 0 ≤ dt
  capped : dt ≤ limit
  /-- It is at most what has gone by since the frame before. -/
  within : ∀ last, (instants before).getLast? = some last → dt ≤ ((now : ℝ) - last) / 10 ^ 9
  /-- It is nothing for the first frame of all, and for the first one after a hard reset. -/
  first : instants before = [] → dt = 0
  reset : ∀ older ack newer, before = older ++ .request (.hardReset ack) :: newer →
    instants newer = [] → dt = 0
  /-- For any other frame, it is all that has gone by, up to the limit. -/
  usual : ∀ older (last : Nat) newer, before = older ++ .frame last :: newer → instants newer = [] →
    (∀ ack, .request (.hardReset ack) ∉ newer) → dt = min (((now : ℝ) - last) / 10 ^ 9) limit

namespace Journal

/-- Nothing has happened yet. -/
structure Fresh (j : Journal ℝ) : Prop where
  quiet : j.Quiet
  idle : j.session.simulator.running = none
  last : j.session.clock.last = none
  positive : 0 < j.session.clock.maxStep

theorem fresh_start (m : ArmModel ℝ) (speed maxStep : ℝ) : (start m speed maxStep).Fresh where
  quiet := .start m speed maxStep
  idle := rfl
  last := FrameClock.last_create maxStep
  positive := FrameClock.create_pos maxStep

namespace Fresh

variable {j : Journal ℝ} {before later : List (Action ℝ)} {now : Nat}

theorem quiet_run (fresh : j.Fresh) (actions : List (Action ℝ)) : (j.run actions).Quiet :=
  run_keeps (fun _ action quiet => quiet.after action) fresh.quiet actions

theorem maxStep_pos (fresh : j.Fresh) (actions : List (Action ℝ)) :
    0 < (j.run actions).session.clock.maxStep := by
  rw [maxStep_run]
  exact fresh.positive

theorem step_nonneg (fresh : j.Fresh) (actions : List (Action ℝ)) (now : Nat) :
    0 ≤ ((j.run actions).session.clock.step now).1 :=
  FrameClock.step_nonneg (fresh.maxStep_pos actions) now

theorem frameTime (fresh : j.Fresh) (later : ∀ last ∈ instants before, last ≤ now) :
    FrameTime j.session.clock.maxStep before now
      ((j.run before).session.clock.step now).1 := by
  have positive := fresh.maxStep_pos before
  have known := last_run fresh.last before
  refine ⟨fresh.step_nonneg before now, ?_, ?_, ?_, ?_, ?_⟩
  · rw [← maxStep_run j before]
    exact FrameClock.step_le_maxStep _ now
  · intro last found
    have order := later last (List.mem_of_getLast? found)
    rcases known with none | same
    · have forward : (last : ℝ) ≤ now := by exact_mod_cast order
      rw [FrameClock.step_of_first positive none]
      exact div_nonneg (by linarith) (by positivity)
    · rw [FrameClock.step_of_later (same.trans found) order]
      exact min_le_left _ _
  · intro none
    refine FrameClock.step_of_first positive ?_ now
    rcases known with first | same
    · exact first
    · rw [same, none, List.getLast?_nil]
  · rintro older ack newer rfl still
    have reset : ((j.run older).after (.request (.hardReset ack))).session.clock.last = none := by
      rw [after, Session.clock_step]
      rfl
    refine FrameClock.step_of_first positive ?_ now
    rw [run_append, run_cons]
    rcases last_run reset newer with none | same
    · exact none
    · rw [same, still, List.getLast?_nil]
  · rintro older last newer rfl still kept
    have order : last ≤ now := later last (by simp [instants])
    have same : (j.run (older ++ .frame last :: newer)).session.clock.last = some last := by
      rw [run_append, run_cons, clock_run_of_still still kept, after, Session.clock_step]
      rfl
    rw [FrameClock.step_of_later same order, maxStep_run]

/-- The frame after these actions lets the simulator go on for the time of its clock. -/
theorem simulator_frame (fresh : j.Fresh) (before : List (Action ℝ)) (now : Nat) :
    ((j.run before).after (.frame now)).session.simulator =
      ((j.run before).session.simulator.advance
        ((j.run before).session.clock.step now).1).drain.2 := by
  have ticks : ((j.run before).after (.frame now)).session.simulator =
      ((j.run before).session.simulator.tick
        ((j.run before).session.clock.step now).1).drain.2 := rfl
  rw [ticks, Simulator.tick, Simulator.tickTime_of_nonneg (fresh.step_nonneg before now)]

/-- Frames let no more time pass than goes by from the last frame before them, or from the first
frame of all if there was none. -/
theorem passed_le (fresh : j.Fresh) (forward : (instants (before ++ later)).Pairwise (· ≤ ·))
    {base latest : Nat}
    (since : (instants before).getLast?.or (instants (before ++ later)).head? = some base)
    (ended : ∀ now ∈ instants (before ++ later), now ≤ latest) :
    (j.run before).session.clock.passed (instants later) ≤ ((latest : ℝ) - base) / 10 ^ 9 := by
  have positive := fresh.maxStep_pos before
  have known := last_run fresh.last before
  rw [instants_append] at forward since ended
  obtain ⟨-, order, apart⟩ := List.pairwise_append.1 forward
  cases found : (instants before).getLast? with
  | some last =>
    rw [found, Option.some_or] at since
    obtain rfl := Option.some.inj since
    have member := List.mem_of_getLast? found
    refine FrameClock.passed_le positive ?_ (List.pairwise_cons.2 ⟨apart _ member, order⟩) ?_
    · intro moment same
      rcases known with none | known
      · cases none.symm.trans same
      · exact Option.some.inj (same.symm.trans (known.trans found))
    · exact List.forall_mem_cons.2 ⟨ended _ (List.mem_append_left _ member), fun now mem =>
        ended now (List.mem_append_right _ mem)⟩
  | none =>
    rw [List.getLast?_eq_none_iff] at found
    rw [found, List.nil_append] at since ended
    rw [found] at known
    obtain ⟨rest, moments⟩ := List.head?_eq_some_iff.1 since
    rw [moments] at order ended ⊢
    have smallest := (List.pairwise_cons.1 order).1
    refine FrameClock.passed_le positive ?_ (List.pairwise_cons.2 ⟨?_, order⟩) ?_
    · intro moment same
      rcases known with none | none <;> cases none.symm.trans same
    · exact List.forall_mem_cons.2 ⟨le_rfl, smallest⟩
    · exact List.forall_mem_cons.2 ⟨ended base List.mem_cons_self, ended⟩

end Fresh

end Journal

end PlanarArm
