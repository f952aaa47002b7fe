import PlanarArm.Proofs.Simulator.Watch

/-!
# What stays between two ticks

Taking up waiting commands moves nothing: only a tick moves the joints and lengthens the path of the
hand, and apart from it only the return to the start changes the joints. Two more facts hold
whenever an operation has ended. No command waits while none runs (`Simulator.Settled`), and the
hand is at the latest point of its path (`Simulator.Traced`).
-/

namespace PlanarArm

variable {α : Type} [Scalar α]

/-! ## The joints and the path -/

namespace Simulator

/-- The same arm at the same place, with the same path behind it. -/
structure SamePlace (s t : Simulator α) : Prop where
  model : t.model = s.model
  angles : t.angles = s.angles
  path : t.path = s.path

theorem startNext_path (s : Simulator α) : s.startNext.path = s.path := by
  induction s using startNext.induct with
  | case1 s r busy => rw [startNext_of_running busy]
  | case2 s idle empty => rw [startNext_of_empty idle empty]
  | case3 s idle c rest next ih =>
    rw [startNext_of_next idle next, ih, start]
    split <;> rfl

theorem enqueue_still {s t : Simulator α} {c : Command α} (taken : s.enqueue c = .ok t) :
    s.SamePlace t := by
  have model := (steps_of_enqueue taken).kept.1
  unfold enqueue at taken
  split at taken
  · cases taken
  · cases taken
    exact ⟨model, startNext_angles _, startNext_path _⟩

theorem tick_angles (s : Simulator α) (dt : α) : (s.tick dt).angles = (s.pass dt).angles := by
  rw [tick_eq, startNext_angles]

omit [Scalar α] in
theorem stop_still (s : Simulator α) : s.SamePlace s.stop.1 := by
  rw [stop_eq]
  exact ⟨rfl, rfl, rfl⟩

end Simulator

theorem History.angles_after (h : History α) {operation : Operation α}
    (still : ∀ dt, operation ≠ .tick dt) (kept : operation ≠ .hardReset) :
    (h.after operation).simulator.angles = h.simulator.angles := by
  cases operation with
  | enqueue c =>
    unfold History.after
    dsimp only
    split
    · next t taken => exact (Simulator.enqueue_still taken).angles
    · rfl
  | tick dt => exact absurd rfl (still dt)
  | setSpeed value => rfl
  | resetPath => rfl
  | stop => exact h.simulator.stop_still.angles
  | hardReset => exact absurd rfl kept
  | drain => rfl

/-! ## Waiting commands -/

namespace Simulator

omit [Scalar α] in
/-- No command waits while none runs. -/
def Settled (s : Simulator α) : Prop :=
  s.running = none → s.queue.toList = []

namespace Settled

omit [Scalar α] in
theorem of_busy {s : Simulator α} {r : Running α} (busy : s.running = some r) : s.Settled :=
  fun idle => nomatch busy.symm.trans idle

/-- The start loop stops only at a command that runs or at the end of the queue. -/
theorem startNext (s : Simulator α) : s.startNext.Settled := by
  induction s using startNext.induct with
  | case1 s r busy =>
    rw [startNext_of_running busy]
    exact of_busy busy
  | case2 s idle empty =>
    rw [startNext_of_empty idle empty]
    intro _
    unfold CommandQueue.pop? at empty
    split at empty
    · assumption
    · cases empty
  | case3 s idle c rest next ih =>
    rw [startNext_of_next idle next]
    exact ih

theorem after {h : History α} (settled : h.simulator.Settled) (operation : Operation α) :
    (h.after operation).simulator.Settled := by
  cases operation with
  | enqueue c =>
    unfold History.after Simulator.enqueue
    dsimp only
    cases c.kind.check with
    | ok _ => exact startNext _
    | error _ => exact settled
  | tick dt =>
    have ticked := startNext (h.simulator.pass dt)
    rw [← tick_eq] at ticked
    exact ticked
  | setSpeed value =>
    intro idle
    exact settled (Option.map_eq_none_iff.1 idle)
  | resetPath => exact settled
  | stop =>
    unfold History.after
    rw [stop_eq]
    exact fun _ => rfl
  | hardReset =>
    unfold History.after
    rw [hardReset_eq, stop_eq]
    exact fun _ => rfl
  | drain => exact settled

end Settled

/-! ## The latest point of the path -/

/-- The hand is at the latest point of its path, if there is one. -/
def Traced (s : Simulator α) : Prop :=
  ∀ p, s.path.toList.getLast? = some p → p = s.placement.hand

namespace Traced

variable {s t : Simulator α}

theorem of_empty (empty : s.path = .empty) : s.Traced := by
  intro p latest
  rw [empty] at latest
  cases latest

theorem of_same (traced : s.Traced) (same : s.SamePlace t) : t.Traced := by
  intro p latest
  rw [same.path] at latest
  rw [placement, same.model, same.angles]
  exact traced p latest

theorem place (s : Simulator α) (angles : JointPair α) : (s.place angles).Traced := by
  intro p latest
  unfold Simulator.place at latest
  rw [Toolpath.toList_push, List.getLast?_concat] at latest
  cases latest
  rfl

theorem step (step : s.Step t) (traced : s.Traced) : t.Traced := by
  cases step with
  | begin idle next plan => exact traced.of_same ⟨rfl, rfl, rfl⟩
  | replace idle next plan => exact traced.of_same ⟨rfl, rfl, rfl⟩
  | settle idle next plan => exact traced.of_same ⟨rfl, rfl, rfl⟩
  | wait dt busy stage => exact traced.of_same ⟨rfl, rfl, rfl⟩
  | move dt busy stage => exact place _ _
  | @arrive r angles completion dt busy stage =>
    exact (place { s with running := none } angles).of_same ⟨rfl, rfl, rfl⟩
  | elapse dt busy stage => exact traced.of_same ⟨rfl, rfl, rfl⟩

theorem invariant : Invariant (Traced (α := α)) where
  step := step
  push c traced := traced.of_same ⟨rfl, rfl, rfl⟩
  setSpeed value traced := traced.of_same ⟨rfl, rfl, rfl⟩
  resetPath _ := of_empty rfl
  stop traced := traced.of_same (stop_still _)
  hardReset _ := by
    rw [hardReset_eq]
    exact of_empty rfl
  drain traced := traced.of_same ⟨rfl, rfl, rfl⟩

theorem after {h : History α} (traced : h.simulator.Traced) (operation : Operation α) :
    (h.after operation).simulator.Traced :=
  invariant.after traced operation

end Traced

end Simulator

end PlanarArm
