import PlanarArm.Command.Queue
import PlanarArm.Simulator.Running
import PlanarArm.Toolpath.Basic

/-!
# The simulated arm

A simulator holds an arm, the commands that wait for it and the reports that nobody has collected
yet. It runs one command at a time. When a command ends, the next one starts at once
(`Simulator.startNext`): a command that ends without running, because it fails or is replaced by
others, lets the one behind it start in the same moment. That this comes to an end is seen from the
weight of the queue.

Time passes only in `Simulator.tick`.
-/

namespace PlanarArm

/-- An arm with its commands. -/
structure Simulator (α : Type) where
  /-- The arm. -/
  model : ArmModel α
  /-- The joint angles. -/
  angles : JointPair α
  /-- The speed scale, between 0 and 1. -/
  speedScale : α
  /-- The points that the hand has passed. -/
  path : Toolpath α
  /-- The command that runs. -/
  running : Option (Running α)
  /-- The commands that wait. -/
  queue : CommandQueue α
  /-- The reports that have not been collected, oldest first. -/
  outbox : Array (CompletionEvent α)
  /-- The speed scale to start from. -/
  initialSpeed : α

/-- How a command starts. -/
inductive Start (α : Type) where
  /-- It runs. -/
  | run (activity : Activity α)
  /-- It is replaced by these commands. -/
  | expand (commands : List (Command α))
  /-- It ends at once, and nothing moves. -/
  | settle (result : CommandResult α)

namespace Simulator

variable {α : Type} [Scalar α]

/-- An arm at rest at home, which starts from a speed scale. -/
def withSpeed (model : ArmModel α) (speed : α) : Simulator α where
  model := model
  angles := .home
  speedScale := clampSpeed speed
  path := .empty
  running := none
  queue := .empty
  outbox := #[]
  initialSpeed := clampSpeed speed

/-- An arm at rest at home, which starts from the standard speed scale. -/
def create (model : ArmModel α) : Simulator α :=
  withSpeed model standardSpeedScale

/-! ## What can be seen -/

/-- Whether a command runs. -/
def isBusy {α : Type} (s : Simulator α) : Bool :=
  s.running.isSome

/-- The identifier of the command that runs. -/
def current {α : Type} (s : Simulator α) : Option CommandId :=
  s.running.map Running.id

/-- Where the elbow and the hand are. -/
def placement (s : Simulator α) : Placement α :=
  forward s.model s.angles

/-! ## Starting commands -/

/-- A motion from where the joints are. -/
def motionTo (s : Simulator α) (target : JointPair α) (branch : Option Branch) : Start α :=
  .run (.motion (.timed s.model s.angles target s.speedScale branch))

/-- How a command would start now. -/
def plan (s : Simulator α) (c : Command α) : Start α :=
  match c.kind with
  | .home => s.motionTo .home none
  | .setJoints degrees =>
    match s.model.clamp? (degrees.map Scalar.ofDegrees) with
    | some target => s.motionTo target none
    | none => .settle (.error .emptyRange)
  | .moveTo target =>
    match inverse s.model target with
    | .ok solution => s.motionTo solution.angles (some solution.branch)
    | .error e => .settle (.error e)
  | .sleep seconds => .run (.sleep (Scalar.maxNum seconds 0.0))
  | .lineTo target steps => .expand (lineCommands c.id s.placement.hand target steps)
  | .unknown name => .settle (.error (.unknownCommand name))

/-- Reports the end of a command. -/
def emit {α : Type} (s : Simulator α) (id : CommandId) (result : CommandResult α) :
    Simulator α :=
  { s with outbox := s.outbox.push ⟨id, result⟩ }

/-- Starts a command that has been taken from the queue. -/
def start (s : Simulator α) (c : Command α) : Simulator α :=
  match s.plan c with
  | .run activity => { s with running := some (.begin c.id activity) }
  | .expand commands => { s with queue := s.queue.pushFront commands }.emit c.id (.ok .expanded)
  | .settle result => s.emit c.id result

/-- Only a line is replaced by other commands. -/
theorem plan_expand {s : Simulator α} {c : Command α} {commands : List (Command α)}
    (h : s.plan c = .expand commands) :
    ∃ target steps, c.kind = .lineTo target steps ∧
      commands = lineCommands c.id s.placement.hand target steps := by
  unfold plan motionTo at h
  split at h
  case h_5 target steps kind =>
    cases h
    exact ⟨target, steps, kind, rfl⟩
  all_goals try split at h
  all_goals cases h

theorem weight_start_lt {s : Simulator α} {c : Command α} {rest : CommandQueue α}
    (h : s.queue.pop? = some (c, rest)) :
    ({ s with queue := rest }.start c).queue.weight < s.queue.weight := by
  have split_weight := CommandQueue.weight_pop h
  have positive := c.weight_pos
  unfold start
  split
  · dsimp only
    omega
  · next commands eq =>
    obtain ⟨target, steps, kind, rfl⟩ := plan_expand eq
    have own : c.weight = 1 + lineCount steps := by simp [Command.weight, kind]
    simp only [emit, CommandQueue.weight_pushFront, totalWeight_lineCommands]
    omega
  · simp only [emit]
    omega

/-- Starts waiting commands until one runs or none waits. -/
def startNext (s : Simulator α) : Simulator α :=
  match s.running with
  | some _ => s
  | none =>
    match _h : s.queue.pop? with
    | none => s
    | some (c, rest) => startNext ({ s with queue := rest }.start c)
termination_by s.queue.weight
decreasing_by exact weight_start_lt _h

/-- Takes in a command, which starts if none runs. A command with a number that is not finite is
refused. -/
def enqueue (s : Simulator α) (c : Command α) : Except (ArmError α) (Simulator α) :=
  match c.kind.check with
  | .error e => .error e
  | .ok _ => .ok { s with queue := s.queue.push c }.startNext

/-! ## Time -/

/-- The joints take up angles, and the hand leaves a point. -/
def place (s : Simulator α) (angles : JointPair α) : Simulator α :=
  { s with angles := angles, path := s.path.push (forward s.model angles).hand }

/-- The running command ends, and the next one starts. -/
def finish (s : Simulator α) (id : CommandId) (result : CommandResult α) : Simulator α :=
  ({ s with running := none }.emit id result).startNext

/-- Lets a running command go on for `dt` seconds. -/
def advance (s : Simulator α) (dt : α) : Simulator α :=
  match s.running with
  | none => s.startNext
  | some r =>
    let r := r.after dt
    let s := { s with running := some r }
    match r.stage with
    | .waiting => s
    | .moved angles => s.place angles
    | .arrived angles completion => (s.place angles).finish r.id (.ok completion)
    | .elapsed => s.finish r.id (.ok .done)

/-- The time that a tick of `dt` seconds lets pass: none if `dt` is negative or not finite. -/
def tickTime (dt : α) : α :=
  if Scalar.isFinite dt then Scalar.maxNum dt 0.0 else 0.0

/-- Lets time pass. -/
def tick (s : Simulator α) (dt : α) : Simulator α :=
  s.advance (tickTime dt)

/-! ## Beside the queue -/

/-- Sets the speed scale. A motion under way keeps its progress and goes on at the new speed. -/
def setSpeed (s : Simulator α) (value : α) : Simulator α :=
  let scale := clampSpeed value
  { s with speedScale := scale, running := s.running.map fun r => r.retime s.model scale }

/-- Forgets the points that the hand has passed. -/
def resetPath {α : Type} (s : Simulator α) : Simulator α :=
  { s with path := .empty }

/-- The identifiers of the running and the waiting commands, in the order in which they would
end. -/
def pendingIds {α : Type} (s : Simulator α) : List CommandId :=
  s.current.toList ++ s.queue.ids

/-- Aborts the running and all waiting commands; also returns their number. -/
def stop {α : Type} (s : Simulator α) : Simulator α × Nat :=
  let aborted := s.pendingIds
  let cleared := { s with running := none, queue := .empty }
  (aborted.foldl (fun s id => s.emit id (.error .stopped)) cleared, aborted.length)

/-- Aborts all commands and puts the arm back to where it started, which includes its speed; also
returns the number of aborted commands. -/
def hardReset (s : Simulator α) : Simulator α × Nat :=
  let (s, aborted) := s.stop
  ({ s with angles := .home, speedScale := s.initialSpeed, path := .empty, running := none },
    aborted)

/-- Collects the reports. -/
def drain {α : Type} (s : Simulator α) : Array (CompletionEvent α) × Simulator α :=
  (s.outbox, { s with outbox := #[] })

end Simulator

end PlanarArm
