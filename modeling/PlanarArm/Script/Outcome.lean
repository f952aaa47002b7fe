import PlanarArm.Session.Agent
import PlanarArm.Scalar.Binary64
import PlanarArm.Script.Statement

/-!
# Carrying out statements

`Statement.execute` carries out one statement in terms of the calls of a sender (`Agent`). What comes
of it is an `Outcome`, which is written as one line of JSON.
-/

namespace PlanarArm

/-- What comes of a statement. -/
inductive Outcome where
  /-- A command has ended. -/
  | completed (event : CompletionEvent Float)
  /-- The speed scale was asked for. -/
  | speedSet (value : Float)
  /-- The path is to be forgotten. -/
  | pathReset
  /-- So many commands were aborted. -/
  | stopped (aborted : Nat)
  /-- So many commands were aborted, and the arm starts afresh. -/
  | restarted (aborted : Nat)
  /-- The state of the arm. -/
  | status (snapshot : Snapshot Float)

namespace Outcome

/-- Whether a command has failed. -/
def isFailure : Outcome → Bool
  | .completed event => !event.isOk
  | _ => false

/-- The state of the arm in short. -/
def statusLine (s : Snapshot Float) : Json :=
  .object [("busy", .bool s.busy),
    ("current", match s.current with | some id => id.toRecord | none => .null),
    ("effector", s.hand.toRecord),
    ("joints_deg", .array [.ofFloat s.degrees.shoulder, .ofFloat s.degrees.elbow]),
    ("op", .string "status"), ("queue_len", .ofNat s.queueLength),
    ("speed", .ofFloat s.speedScale), ("toolpath_len", .ofNat s.path.size)]

/-- The line that reports the outcome, with its members in alphabetical order. -/
def toLine : Outcome → Json
  | .completed event => event.toWire
  | .speedSet value => .object [("op", .string "speed"), ("value", .ofFloat value)]
  | .pathReset => .object [("op", .string "reset_path")]
  | .stopped aborted => .object [("aborted", .ofNat aborted), ("op", .string "stop")]
  | .restarted aborted => .object [("aborted", .ofNat aborted), ("op", .string "reset")]
  | .status snapshot => statusLine snapshot

end Outcome

namespace Statement

variable {m : Type → Type} [Monad m] [Agent Float m]

/-- Runs a command that comes without an identifier. Whatever its result is, it has completed. -/
def executeRun (kind : CommandKind Float) : m (Except (ArmError Float) Outcome) := do
  match ← Agent.submit kind with
  | .error e => return .error e
  | .ok (id, ticket) =>
    let result ← Agent.await ticket
    return .ok (.completed ⟨id, result⟩)

/-- Runs a command under its own identifier. A failure of the channel is no result of it. -/
def executeWire (c : Command Float) : m (Except (ArmError Float) Outcome) := do
  match ← Agent.submitCommand c with
  | .error e => return if e.isChannel then .error e else .ok (.completed ⟨c.id, .error e⟩)
  | .ok ticket =>
    match ← Agent.await ticket with
    | .error e => return if e.isChannel then .error e else .ok (.completed ⟨c.id, .error e⟩)
    | .ok completion => return .ok (.completed ⟨c.id, .ok completion⟩)

/-- Carries out a statement. It fails only if there is no session any more. -/
def execute (statement : Statement) : m (Except (ArmError Float) Outcome) := do
  match statement with
  | .run kind => executeRun kind
  | .wire c => executeWire c
  | .speed value => return (← Agent.setSpeed value).map fun _ => .speedSet value
  | .resetPath => return (← Agent.resetPath).map fun _ => .pathReset
  | .stop => return (← Agent.stop).map .stopped
  | .reset => return (← Agent.hardReset).map .restarted
  | .status => return .ok (.status (← Agent.snapshot))

end Statement

end PlanarArm
