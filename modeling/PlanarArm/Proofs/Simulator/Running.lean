import PlanarArm.Simulator.Running

/-!
# Where a running command stands

Each stage tells what the command does: only a motion moves the joints or arrives, and only a sleep
elapses. A new timing changes neither the ends of a motion nor the branch that it reports.
-/

namespace PlanarArm

variable {α : Type} [Scalar α]

namespace Running

variable {r : Running α}

theorem sleep_of_elapsed (stage : r.stage = .elapsed) :
    ∃ duration, r.activity = .sleep duration := by
  unfold Running.stage at stage
  split at stage
  · next duration sleep => exact ⟨duration, sleep⟩
  · dsimp only at stage
    split at stage <;> cases stage

theorem sleep_of_waiting (stage : r.stage = .waiting) :
    ∃ duration, r.activity = .sleep duration := by
  unfold Running.stage at stage
  split at stage
  · next duration sleep => exact ⟨duration, sleep⟩
  · dsimp only at stage
    split at stage <;> cases stage

theorem motion_of_moved {angles : JointPair α} (stage : r.stage = .moved angles) :
    ∃ p u, r.activity = .motion p ∧ angles = p.anglesAt u := by
  unfold Running.stage at stage
  split at stage
  · split at stage <;> cases stage
  · next p motion =>
    dsimp only at stage
    split at stage <;> cases stage
    exact ⟨p, _, motion, rfl⟩

theorem motion_of_arrived {angles : JointPair α} {completion : Completion}
    (stage : r.stage = .arrived angles completion) :
    ∃ p, r.activity = .motion p ∧ angles = p.target ∧ completion = p.completion := by
  unfold Running.stage at stage
  split at stage
  · split at stage <;> cases stage
  · next p motion =>
    dsimp only at stage
    split at stage <;> cases stage
    exact ⟨p, motion, rfl, rfl⟩

theorem retime_of_motion {p : Motion α} (motion : r.activity = .motion p) (m : ArmModel α)
    (scale : α) : ∃ q, (r.retime m scale).activity = .motion q ∧ q.start = p.start ∧
      q.target = p.target ∧ q.branch = p.branch := by
  unfold Running.retime
  rw [motion]
  exact ⟨_, rfl, rfl, rfl, rfl⟩

theorem retime_of_sleep {duration : α} (sleep : r.activity = .sleep duration) (m : ArmModel α)
    (scale : α) : r.retime m scale = r := by
  unfold Running.retime
  rw [sleep]

theorem sleep_of_retime {id : CommandId} {duration elapsed : α} {m : ArmModel α} {scale : α}
    (sleep : r.retime m scale = ⟨id, .sleep duration, elapsed⟩) :
    r = ⟨id, .sleep duration, elapsed⟩ := by
  cases does : r.activity with
  | motion plan =>
    obtain ⟨other, motion, -⟩ := retime_of_motion does m scale
    rw [sleep] at motion
    cases motion
  | sleep duration => rwa [retime_of_sleep does] at sleep

end Running

end PlanarArm
