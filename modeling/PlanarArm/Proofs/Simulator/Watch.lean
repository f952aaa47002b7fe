import PlanarArm.Proofs.Simulator.History

/-!
# Simulators under observation

A simulator reports the end of a command by its identifier alone. `Watch` is a simulator with its
past whose every step is observed: which command has its turn, where the joints were when its turn
came, and where they are at the very moment of its report. The observation interferes with nothing:

* `Simulator.tick_eq`: a tick is a step in time followed by the start loop.
* `Watch.toHistory_after`, `Watch.toHistory_run`: an observed operation and an observed run do what
  they do unobserved.
-/

namespace PlanarArm

variable {α : Type} [Scalar α]

namespace Simulator

/-- Lets the time of a tick pass for the running command, and starts no other. -/
def pass (s : Simulator α) (dt : α) : Simulator α :=
  match s.running with
  | none => s
  | some r =>
    let r := r.after (tickTime dt)
    match r.stage with
    | .waiting => { s with running := some r }
    | .moved angles => { s with running := some r }.place angles
    | .arrived angles completion =>
      ({ s with running := none }.place angles).emit r.id (.ok completion)
    | .elapsed => { s with running := none }.emit r.id (.ok .done)

theorem tick_eq (s : Simulator α) (dt : α) : s.tick dt = (s.pass dt).startNext := by
  unfold tick advance pass
  cases busy : s.running with
  | none => rfl
  | some r =>
    dsimp only
    cases stage : (r.after (tickTime dt)).stage with
    | waiting => exact (startNext_of_running rfl).symm
    | moved angles => exact (startNext_of_running rfl).symm
    | arrived angles completion => rfl
    | elapsed => rfl

theorem pass_model (s : Simulator α) (dt : α) : (s.pass dt).model = s.model := by
  unfold pass
  split
  · rfl
  · dsimp only
    split <;> rfl

end Simulator

/-! ## What can be observed -/

/-- The end of a command as it was observed. -/
structure Sighting (α : Type) where
  /-- The command. -/
  command : Command α
  /-- The joint angles when its turn came. -/
  start : JointPair α
  /-- The report of its end. -/
  event : CompletionEvent α
  /-- The joint angles at the moment of the report. -/
  finish : JointPair α

/-- A simulator with its past that is observed at every step. -/
structure Watch (α : Type) extends History α where
  /-- The command that runs, and the joint angles when its turn came. -/
  active : Option (Command α × JointPair α)
  /-- The ends of commands that were not aborted, oldest first. -/
  sightings : List (Sighting α)

namespace Watch

/-- A simulator without a past, before it is observed. -/
def start {α : Type} (s : Simulator α) : Watch α :=
  ⟨.start s, none, []⟩

/-- One step of a command leads to the simulator `t`. If that has reported the end of the command,
the end is seen there and then. -/
def saw {α : Type} (w : Watch α) (c : Command α) (start : JointPair α) (t : Simulator α) :
    Watch α where
  simulator := t
  accepted := w.accepted
  collected := w.collected
  active := if t.isBusy then some (c, start) else none
  sightings := w.sightings ++
    (t.outbox.toList.drop w.simulator.outbox.size).map fun e => ⟨c, start, e, t.angles⟩

def startNext (w : Watch α) : Watch α :=
  match w.simulator.running with
  | some _ => w
  | none =>
    match _h : w.simulator.queue.pop? with
    | none => w
    | some (c, rest) =>
      startNext (w.saw c w.simulator.angles ({ w.simulator with queue := rest }.start c))
termination_by w.simulator.queue.weight
decreasing_by exact Simulator.weight_start_lt _h

def pass (w : Watch α) (dt : α) : Watch α :=
  match w.active with
  | none => { w with simulator := w.simulator.pass dt }
  | some (c, start) => w.saw c start (w.simulator.pass dt)

/-- An operation, observed. Nothing is left to observe of a command that is aborted. -/
def after (w : Watch α) : Operation α → Watch α
  | .enqueue c =>
    match c.kind.check with
    | .ok _ =>
      { w with
        simulator := { w.simulator with queue := w.simulator.queue.push c }
        accepted := w.accepted ++ [c] : Watch α }.startNext
    | .error _ => w
  | .tick dt => (w.pass dt).startNext
  | .setSpeed value => { w with toHistory := w.toHistory.after (.setSpeed value) }
  | .resetPath => { w with toHistory := w.toHistory.after .resetPath }
  | .stop => { w with toHistory := w.toHistory.after .stop, active := none }
  | .hardReset => { w with toHistory := w.toHistory.after .hardReset, active := none }
  | .drain => { w with toHistory := w.toHistory.after .drain }

def run (w : Watch α) (operations : List (Operation α)) : Watch α :=
  operations.foldl after w

theorem startNext_of_running {w : Watch α} {r : Running α} (busy : w.simulator.running = some r) :
    w.startNext = w := by
  rw [startNext, busy]

theorem startNext_of_empty {w : Watch α} (idle : w.simulator.running = none)
    (empty : w.simulator.queue.pop? = none) : w.startNext = w := by
  rw [startNext, idle]
  dsimp only
  split
  · rfl
  · next c rest next => cases empty.symm.trans next

theorem startNext_of_next {w : Watch α} {c : Command α} {rest : CommandQueue α}
    (idle : w.simulator.running = none) (next : w.simulator.queue.pop? = some (c, rest)) :
    w.startNext =
      (w.saw c w.simulator.angles ({ w.simulator with queue := rest }.start c)).startNext := by
  rw [startNext, idle]
  dsimp only
  split
  · next empty => cases empty.symm.trans next
  · next d rest' next' =>
    cases next.symm.trans next'
    rfl

/-- What is kept whenever a waiting command has its turn is kept by the start loop. -/
theorem startNext_keeps {holds : Watch α → Prop}
    (turn : ∀ {w : Watch α} {c : Command α} {rest : CommandQueue α}, w.simulator.running = none →
      w.simulator.queue.pop? = some (c, rest) → holds w →
      holds (w.saw c w.simulator.angles ({ w.simulator with queue := rest }.start c)))
    {w : Watch α} (start : holds w) : holds w.startNext := by
  induction w using startNext.induct with
  | case1 w r busy =>
    rw [startNext_of_running busy]
    exact start
  | case2 w idle empty =>
    rw [startNext_of_empty idle empty]
    exact start
  | case3 w idle c rest next ih =>
    rw [startNext_of_next idle next]
    exact ih (turn idle next start)

theorem run_keeps {holds : Watch α → Prop}
    (step : ∀ (w : Watch α) (operation : Operation α), holds w → holds (w.after operation))
    {w : Watch α} (start : holds w) (operations : List (Operation α)) :
    holds (w.run operations) := by
  induction operations generalizing w with
  | nil => exact start
  | cons operation rest ih => exact ih (step w operation start)

/-! ## Observation interferes with nothing -/

theorem toHistory_startNext (w : Watch α) :
    w.startNext.toHistory = { w.toHistory with simulator := w.simulator.startNext } := by
  induction w using startNext.induct with
  | case1 w r busy => rw [startNext_of_running busy, Simulator.startNext_of_running busy]
  | case2 w idle empty =>
    rw [startNext_of_empty idle empty, Simulator.startNext_of_empty idle empty]
  | case3 w idle c rest next ih =>
    rw [startNext_of_next idle next, ih, Simulator.startNext_of_next idle next]
    rfl

theorem toHistory_pass (w : Watch α) (dt : α) :
    (w.pass dt).toHistory = { w.toHistory with simulator := w.simulator.pass dt } := by
  unfold pass
  split <;> rfl

theorem toHistory_after (w : Watch α) (operation : Operation α) :
    (w.after operation).toHistory = w.toHistory.after operation := by
  cases operation with
  | enqueue c =>
    unfold after History.after Simulator.enqueue
    dsimp only
    cases c.kind.check with
    | ok _ => exact toHistory_startNext _
    | error _ => rfl
  | tick dt =>
    have ticked : w.toHistory.after (.tick dt) =
        { w.toHistory with simulator := (w.simulator.pass dt).startNext } :=
      congrArg (fun s => { w.toHistory with simulator := s }) (Simulator.tick_eq _ dt)
    rw [ticked, after, toHistory_startNext, toHistory_pass]
  | setSpeed value => rfl
  | resetPath => rfl
  | stop => rfl
  | hardReset => rfl
  | drain => rfl

/-- Whatever has been seen since `w` was seen with the joints where they are in `v`. -/
def SeenInPlace {α : Type} (w v : Watch α) : Prop :=
  ∃ new, v.sightings = w.sightings ++ new ∧ ∀ x ∈ new, x.finish = v.simulator.angles

namespace SeenInPlace

omit [Scalar α] in
theorem of_same {w v : Watch α} (same : v.sightings = w.sightings) : w.SeenInPlace v :=
  ⟨[], same.trans (List.append_nil _).symm, nofun⟩

omit [Scalar α] in
theorem saw (w : Watch α) (c : Command α) (start : JointPair α) (t : Simulator α) :
    w.SeenInPlace (w.saw c start t) := by
  refine ⟨_, rfl, fun x mem => ?_⟩
  obtain ⟨e, -, rfl⟩ := List.mem_map.1 mem
  rfl

/-- The joints stay where they are while waiting commands have their turn. -/
theorem startNext {w v : Watch α} (before : w.SeenInPlace v) : w.SeenInPlace v.startNext := by
  refine startNext_keeps (fun {u c rest} _ _ ⟨old, seen, place⟩ => ?_) before
  have still : ({ u.simulator with queue := rest }.start c).angles = u.simulator.angles := by
    unfold Simulator.start
    split <;> rfl
  obtain ⟨new, further, here⟩ := saw u c u.simulator.angles
    ({ u.simulator with queue := rest }.start c)
  refine ⟨old ++ new, ?_, fun x mem => ?_⟩
  · rw [further, seen, List.append_assoc]
  · obtain early | late := List.mem_append.1 mem
    · exact (place x early).trans still.symm
    · exact here x late

/-- What is seen during an operation is seen with the joints where the operation leaves them. -/
theorem after (w : Watch α) (operation : Operation α) : w.SeenInPlace (w.after operation) := by
  cases operation with
  | enqueue c =>
    unfold Watch.after
    dsimp only
    split
    · exact startNext (of_same rfl)
    · exact of_same rfl
  | tick dt =>
    refine startNext ?_
    unfold Watch.pass
    split
    · exact of_same rfl
    · exact saw w _ _ _
  | setSpeed value => exact of_same rfl
  | resetPath => exact of_same rfl
  | stop => exact of_same rfl
  | hardReset => exact of_same rfl
  | drain => exact of_same rfl

end SeenInPlace

end Watch

end PlanarArm
