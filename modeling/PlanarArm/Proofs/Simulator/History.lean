import PlanarArm.Proofs.Simulator.Steps

/-!
# Simulators with their past

`Operation` lists what can be done with a simulator. `History` is a simulator together with the
commands that it has accepted and the reports that have been collected from it, so that a statement
about a whole run is one about its last state: `History.run` performs operations one after the
other, and `History.emitted` is every report made so far, collected or not.
-/

namespace PlanarArm

/-- What can be done with a simulator. -/
inductive Operation (α : Type) where
  /-- A command is handed in. -/
  | enqueue (command : Command α)
  /-- Time passes. -/
  | tick (dt : α)
  /-- The speed scale is set. -/
  | setSpeed (value : α)
  /-- The path of the hand is forgotten. -/
  | resetPath
  /-- All commands are aborted. -/
  | stop
  /-- All commands are aborted, and the arm goes back to where it started. -/
  | hardReset
  /-- The reports are collected. -/
  | drain

/-- Whether the operation aborts commands. -/
def Operation.aborts {α : Type} : Operation α → Bool
  | .stop | .hardReset => true
  | _ => false

/-- A simulator with its past. -/
structure History (α : Type) where
  /-- The simulator as it is now. -/
  simulator : Simulator α
  /-- The commands that have been accepted, the first one first. -/
  accepted : List (Command α)
  /-- The reports that have been collected, oldest first. -/
  collected : List (CompletionEvent α)

namespace History

variable {α : Type} [Scalar α]

/-- A simulator without a past. -/
def start {α : Type} (s : Simulator α) : History α :=
  ⟨s, [], []⟩

/-- Every report that has been made, oldest first. -/
def emitted {α : Type} (h : History α) : List (CompletionEvent α) :=
  h.collected ++ h.simulator.outbox.toList

/-- The history with one more operation. A command that is refused leaves it as it is. -/
def after (h : History α) : Operation α → History α
  | .enqueue c =>
    match h.simulator.enqueue c with
    | .ok s => ⟨s, h.accepted ++ [c], h.collected⟩
    | .error _ => h
  | .tick dt => { h with simulator := h.simulator.tick dt }
  | .setSpeed value => { h with simulator := h.simulator.setSpeed value }
  | .resetPath => { h with simulator := h.simulator.resetPath }
  | .stop => { h with simulator := h.simulator.stop.1 }
  | .hardReset => { h with simulator := h.simulator.hardReset.1 }
  | .drain =>
    { h with
      simulator := h.simulator.drain.2
      collected := h.collected ++ h.simulator.drain.1.toList }

/-- The history with more operations, performed one after the other. -/
def run (h : History α) (operations : List (Operation α)) : History α :=
  operations.foldl after h

/-- The reports that an operation makes. -/
def emittedBy (h : History α) (operation : Operation α) : List (CompletionEvent α) :=
  (h.after operation).emitted.drop h.emitted.length

@[simp]
theorem run_nil (h : History α) : h.run [] = h := rfl

@[simp]
theorem run_cons (h : History α) (operation : Operation α) (rest : List (Operation α)) :
    h.run (operation :: rest) = (h.after operation).run rest := rfl

@[simp]
theorem run_append (h : History α) (before rest : List (Operation α)) :
    h.run (before ++ rest) = (h.run before).run rest :=
  List.foldl_append

/-- What is kept by every operation is kept by a run of them. -/
theorem run_keeps {holds : History α → Prop}
    (step : ∀ (h : History α) (operation : Operation α), holds h → holds (h.after operation))
    {h : History α} (start : holds h) (operations : List (Operation α)) :
    holds (h.run operations) := by
  induction operations generalizing h with
  | nil => exact start
  | cons operation rest ih => exact ih (step h operation start)

end History

/-! ## Invariants -/

/-- The property is kept by every step inside a call, by every command that comes to wait, and by
every call that changes a simulator at one stroke. -/
structure Simulator.Invariant {α : Type} [Scalar α] (holds : Simulator α → Prop) : Prop where
  step {s t : Simulator α} : s.Step t → holds s → holds t
  push {s : Simulator α} (c : Command α) : holds s → holds { s with queue := s.queue.push c }
  setSpeed {s : Simulator α} (value : α) : holds s → holds (s.setSpeed value)
  resetPath {s : Simulator α} : holds s → holds s.resetPath
  stop {s : Simulator α} : holds s → holds s.stop.1
  hardReset {s : Simulator α} : holds s → holds s.hardReset.1
  drain {s : Simulator α} : holds s → holds s.drain.2

namespace Simulator.Invariant

variable {α : Type} [Scalar α] {holds : Simulator α → Prop}

/-- Such a property is kept by every operation. -/
theorem after (invariant : Simulator.Invariant holds) {h : History α} (start : holds h.simulator)
    (operation : Operation α) : holds (h.after operation).simulator := by
  cases operation with
  | enqueue c =>
    unfold History.after
    dsimp only
    split
    · next t taken =>
      exact (Simulator.steps_of_enqueue taken).keeps invariant.step (invariant.push c start)
    · exact start
  | tick dt => exact (Simulator.steps_tick h.simulator dt).keeps invariant.step start
  | setSpeed value => exact invariant.setSpeed value start
  | resetPath => exact invariant.resetPath start
  | stop => exact invariant.stop start
  | hardReset => exact invariant.hardReset start
  | drain => exact invariant.drain start

/-- Such a property holds in every state of every run from a simulator that has it. -/
theorem run (invariant : Simulator.Invariant holds) {h : History α} (start : holds h.simulator)
    (operations : List (Operation α)) : holds (h.run operations).simulator :=
  @History.run_keeps α _ (fun h => holds h.simulator)
    (fun _ operation start => invariant.after start operation) h start operations

end Simulator.Invariant

namespace History

variable {α : Type} [Scalar α]

theorem after_enqueue {h : History α} {c : Command α} {s : Simulator α}
    (taken : h.simulator.enqueue c = .ok s) : (h.after (.enqueue c)).simulator = s := by
  rw [after, taken]

/-- A command that comes while none runs or waits starts at once, if it is one that runs. -/
theorem after_enqueue_of_idle {h : History α} {c : Command α} {activity : Activity α}
    (idle : h.simulator.running = none) (empty : h.simulator.queue = .empty)
    (valid : c.kind.check = .ok ()) (plan : h.simulator.plan c = .run activity) :
    h.after (.enqueue c) = ⟨{ h.simulator with running := some (.begin c.id activity) },
      h.accepted ++ [c], h.collected⟩ := by
  rw [after, Simulator.enqueue_of_idle idle empty valid plan]

/-- A command that comes while another one runs waits behind all others. -/
theorem after_enqueue_of_running {h : History α} {c : Command α} {r : Running α}
    (busy : h.simulator.running = some r) (valid : c.kind.check = .ok ()) :
    h.after (.enqueue c) = ⟨{ h.simulator with queue := h.simulator.queue.push c },
      h.accepted ++ [c], h.collected⟩ := by
  have stays : Simulator.startNext { h.simulator with queue := h.simulator.queue.push c } =
      { h.simulator with queue := h.simulator.queue.push c } :=
    Simulator.startNext_of_running busy
  rw [after, Simulator.enqueue, valid]
  dsimp only
  rw [stays]

theorem emitted_drain (h : History α) : (h.after .drain).emitted = h.emitted := by
  simp [emitted, after, Simulator.drain]

theorem model_after (h : History α) (operation : Operation α) :
    (h.after operation).simulator.model = h.simulator.model :=
  have invariant : Simulator.Invariant fun s : Simulator α => s.model = h.simulator.model :=
    { step := fun step same => step.kept.1.trans same
      push := fun _ same => same
      setSpeed := fun _ same => same
      resetPath := id
      stop := fun same => by rwa [Simulator.stop_eq]
      hardReset := fun same => by rwa [Simulator.hardReset_eq, Simulator.stop_eq]
      drain := id }
  invariant.after rfl operation

theorem model_run (m : ArmModel α) (speed : α) (operations : List (Operation α)) :
    ((start (.withSpeed m speed)).run operations).simulator.model = m :=
  @run_keeps α _ (fun h => h.simulator.model = m)
    (fun h operation same => (h.model_after operation).trans same) _ rfl operations

end History

end PlanarArm
