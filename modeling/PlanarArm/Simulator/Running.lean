import PlanarArm.Command.Completion
import PlanarArm.Motion

/-!
# The running command

A command that has been started moves the joints or lets time pass. `Running.after` is the command
after some more time, and `Running.stage` says where it stands.
-/

namespace PlanarArm

/-- What a running command does. -/
inductive Activity (α : Type) where
  /-- It moves the joints. -/
  | motion (plan : Motion α)
  /-- It lets a time pass. -/
  | sleep (duration : α)

/-- A command that has been started. -/
structure Running (α : Type) where
  /-- The identifier of the command. -/
  id : CommandId
  /-- What it does. -/
  activity : Activity α
  /-- The time that it has run, in seconds. -/
  elapsed : α

/-- Where a running command stands. -/
inductive Stage (α : Type) where
  /-- It goes on, and nothing has moved. -/
  | waiting
  /-- It goes on with the joints at these angles. -/
  | moved (angles : JointPair α)
  /-- It has brought the joints to these angles and is done. -/
  | arrived (angles : JointPair α) (completion : Completion)
  /-- It has let its time pass and is done. -/
  | elapsed

variable {α : Type} [Scalar α]

/-- What is to be said when a motion has ended. -/
def Motion.completion {α : Type} (p : Motion α) : Completion :=
  match p.branch with
  | some branch => .reached branch
  | none => .done

namespace Running

/-- A command that starts to run. -/
def begin (id : CommandId) (activity : Activity α) : Running α :=
  ⟨id, activity, 0.0⟩

/-- The time that the command takes in all. -/
def duration (r : Running α) : α :=
  match r.activity with
  | .motion plan => plan.duration
  | .sleep duration => duration

/-- The command after another `dt` seconds. -/
def after (r : Running α) (dt : α) : Running α :=
  ⟨r.id, r.activity, r.elapsed + dt⟩

/-- Where the command stands. -/
def stage (r : Running α) : Stage α :=
  match r.activity with
  | .sleep duration => if duration ≤ r.elapsed then .elapsed else .waiting
  | .motion plan =>
    let u := plan.progress r.elapsed
    if (1.0 : α) ≤ u then .arrived plan.target plan.completion else .moved (plan.anglesAt u)

/-- The command when the speed scale changes. A motion keeps its progress, a sleep its time. -/
def retime (r : Running α) (m : ArmModel α) (scale : α) : Running α :=
  match r.activity with
  | .motion plan =>
    let (plan, elapsed) := plan.retime m r.elapsed scale
    ⟨r.id, .motion plan, elapsed⟩
  | .sleep _ => r

end Running

end PlanarArm
