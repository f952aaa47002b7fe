import PlanarArm.Proofs.Session.FrameTime
import PlanarArm.Proofs.Session.Snapshots
import PlanarArm.Proofs.Simulator.TakingUp

/-!
# What an action takes up

An action of a session either takes up a command to run (`Session.takesUp?`), or what runs after it
is what ran before: a frame has let time pass for it, or its speed may have changed.

## Main results

* `Session.running_of_takesUp`: what is taken up runs, and no time has passed for it.
* `Session.running_of_kept`: what runs if nothing is taken up.
-/

namespace PlanarArm

variable {α : Type} [Scalar α]

namespace Session

/-- The simulator with which an action comes to start commands. -/
def starting? (s : Session α) : Action α → Option (Simulator α)
  | .frame now => some (s.simulator.pass (s.clock.step now).1)
  | .request (.submit c _) =>
    match s.refusal? c with
    | some _ => none
    | none => some { s.simulator with queue := s.simulator.queue.push c }
  | _ => none

/-- The command that an action takes up to run, and what it does. -/
def takesUp? (s : Session α) (action : Action α) : Option (Command α × Activity α) :=
  (s.starting? action).bind Simulator.takesUp?

theorem simulator_of_starting {s : Session α} {action : Action α} {u : Simulator α}
    (starting : s.starting? action = some u) :
    (s.step action).1.simulator = u.startNext.drain.2 := by
  cases action with
  | frame now =>
    cases starting
    exact congrArg (fun t : Simulator α => t.drain.2) (s.simulator.tick_eq _)
  | request r =>
    cases r with
    | submit c ticket =>
      cases verdict : s.refusal? c with
      | some e =>
        rw [starting?, verdict] at starting
        cases starting
      | none =>
        rw [starting?, verdict] at starting
        cases starting
        obtain ⟨t, allowed, enqueued, -⟩ := submit_of_accepted verdict ticket
        rw [step_submit allowed enqueued, Simulator.startNext_of_enqueue enqueued]
        rfl
    | setSpeed value => cases starting
    | resetPath => cases starting
    | stop ack => cases starting
    | hardReset ack => cases starting
  | finish => cases starting

/-- What is taken up runs, and no time has passed for it. -/
theorem running_of_takesUp {s : Session α} {action : Action α} {c : Command α}
    {activity : Activity α} (taken : s.takesUp? action = some (c, activity)) :
    (s.step action).1.simulator.running = some (.begin c.id activity) := by
  obtain ⟨u, starting, taken⟩ := Option.bind_eq_some_iff.1 taken
  have idle : u.running = none := by
    cases busy : u.running with
    | none => rfl
    | some r => cases (Simulator.takesUp?_of_running busy).symm.trans taken
  rw [simulator_of_starting starting]
  exact (Simulator.running_startNext idle).trans (by rw [taken, Option.map_some])

/-- If nothing is taken up, then what runs already when commands are to be started goes on. -/
theorem running_of_starting {s : Session α} {action : Action α} {u : Simulator α} {r : Running α}
    (starting : s.starting? action = some u) (kept : s.takesUp? action = none)
    (runs : (s.step action).1.simulator.running = some r) : u.running = some r := by
  rw [simulator_of_starting starting] at runs
  rw [takesUp?, starting, Option.bind_some] at kept
  cases busy : u.running with
  | none =>
    have idle : u.startNext.running = none := by
      rw [Simulator.running_startNext busy, kept, Option.map_none]
    cases idle.symm.trans runs
  | some first =>
    rw [Simulator.startNext_of_running busy] at runs
    exact busy.symm.trans runs

/-- If nothing is taken up, then what runs after an action is what ran before: a frame has let time
pass for it, and otherwise its speed may have changed. -/
theorem running_of_kept {s : Session α} {action : Action α} {later : Running α}
    (kept : s.takesUp? action = none)
    (runs : (s.step action).1.simulator.running = some later) :
    action.aborts = false ∧ ∃ r, s.simulator.running = some r ∧
      ((∃ now, action = .frame now ∧
          later = r.after (Simulator.tickTime (s.clock.step now).1)) ∨
        (instants [action] = [] ∧
          (later = r ∨ ∃ scale, later = r.retime s.simulator.model scale))) := by
  cases action with
  | frame now =>
    have passed := running_of_starting rfl kept runs
    cases busy : s.simulator.running with
    | none =>
      rw [Simulator.pass, busy] at passed
      cases busy.symm.trans passed
    | some r =>
      obtain ⟨-, ⟨goes, -⟩ | ⟨ended, -⟩⟩ := Simulator.pass_cases busy (s.clock.step now).1
      · cases goes.symm.trans passed
        exact ⟨rfl, r, rfl, .inl ⟨now, rfl, rfl⟩⟩
      · cases ended.symm.trans passed
  | request request =>
    cases request with
    | submit c ticket =>
      cases verdict : s.refusal? c with
      | some e =>
        rw [step_of_refusal verdict] at runs
        exact ⟨rfl, later, runs, .inr ⟨rfl, .inl rfl⟩⟩
      | none =>
        have starting : s.starting? (.request (.submit c ticket)) =
            some { s.simulator with queue := s.simulator.queue.push c } := by
          rw [starting?, verdict]
        have stays := running_of_starting starting kept runs
        exact ⟨rfl, later, stays, .inr ⟨rfl, .inl rfl⟩⟩
    | setSpeed value =>
      obtain ⟨r, busy, rfl⟩ := Option.map_eq_some_iff.1 runs
      exact ⟨rfl, r, busy, .inr ⟨rfl, .inr ⟨_, rfl⟩⟩⟩
    | resetPath => exact ⟨rfl, later, runs, .inr ⟨rfl, .inl rfl⟩⟩
    | stop ack =>
      have none : s.simulator.stop.1.running = some later := runs
      rw [Simulator.stop_eq] at none
      cases none
    | hardReset ack =>
      have none : s.simulator.hardReset.1.running = some later := runs
      rw [Simulator.hardReset_eq] at none
      cases none
  | finish =>
    have none : s.simulator.stop.1.running = some later := runs
    rw [Simulator.stop_eq] at none
    cases none

end Session

end PlanarArm
