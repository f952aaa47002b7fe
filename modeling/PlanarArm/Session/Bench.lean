import PlanarArm.Session.Agent
import PlanarArm.Session.World

/-!
# Virtual time

On a bench a session and one sender take turns. Frames come at whole multiples of a period. Time
passes only while the sender waits, frame by frame; requests are served when the sender waits or
when the inbox is full, and serving them takes no time. A bench has a budget of frames: when it is
used up, the session is killed.
-/

namespace PlanarArm

/-- A session in virtual time. -/
structure Bench (α : Type) where
  /-- The session and what can be seen of it. -/
  world : World α
  /-- The time between frames, in nanoseconds. -/
  period : Nat
  /-- The number of the next frame. -/
  nextFrame : Nat
  /-- The number of frames that may still come. -/
  budget : Nat
  /-- The most requests that may wait. -/
  inboxCapacity : Nat
  /-- The identifiers for commands that come without one. -/
  supply : Nat → CommandId
  /-- The number of identifiers that have been used. -/
  supplied : Nat

/-- What a session is run with. -/
structure SessionSettings (α : Type) where
  /-- The frames per second. -/
  frameRate : Float
  /-- The most time that a frame lets pass, in seconds. -/
  maxStep : α
  /-- The number of reports that are held for subscribers. -/
  reportCapacity : Nat
  /-- The number of requests that may wait. -/
  inboxCapacity : Nat

namespace Bench

variable {α : Type} [Scalar α]

/-- The next frame comes. -/
def frame (b : Bench α) : Bench α :=
  { b with
    world := b.world.frame (b.nextFrame * b.period)
    nextFrame := b.nextFrame + 1
    budget := b.budget - 1 }

/-- A bench on which nothing has happened yet but the frame at the start. -/
def create (simulator : Simulator α) (maxStep : α) (reportCapacity inboxCapacity : Nat)
    (period budget : Nat) (supply : Nat → CommandId) : Bench α :=
  frame {
    world := .create simulator maxStep reportCapacity
    period := period
    nextFrame := 0
    budget := budget + 1
    inboxCapacity := max inboxCapacity 1
    supply := supply
    supplied := 0 }

/-- The session serves all requests that have arrived. -/
def serve (b : Bench α) : Bench α :=
  { b with world := b.world.serve }

/-- The session is killed. -/
def kill {α : Type} (b : Bench α) : Bench α :=
  { b with world := b.world.abort }

/-- A number of frames come. -/
def frames (b : Bench α) (n : Nat) : Bench α :=
  n.repeat frame b

/-- A request arrives. If the inbox is full, the session serves it first. -/
def send (b : Bench α) (r : Request α) : Bench α :=
  let b := if b.world.inbox.size < b.inboxCapacity then b else b.serve
  { b with world := b.world.send r }

/-- Sends a command under its own identifier. -/
def submitCommand (b : Bench α) (c : Command α) : Except (ArmError α) Nat × Bench α :=
  if b.world.isRunning then
    let (ticket, receipts) := b.world.receipts.issue
    (.ok ticket, { b with world := { b.world with receipts := receipts } }.send (.submit c ticket))
  else (.error sessionGone, b)

/-- Sends a command under a new identifier. -/
def submit (b : Bench α) (kind : CommandKind α) :
    Except (ArmError α) (CommandId × Nat) × Bench α :=
  let id := b.supply b.supplied
  let (result, b) := { b with supplied := b.supplied + 1 }.submitCommand ⟨id, kind⟩
  (result.map fun ticket => (id, ticket), b)

/-- The answer to a ticket, if it is settled. -/
def answer? {α : Type} (b : Bench α) (ticket : Nat) : Option (CommandResult α) :=
  match b.world.receipts.cells[ticket]? with
  | some .waiting => none
  | some (.answered result) => some result
  | _ => some (.error sessionGone)

/-- Lets frames come until a ticket is answered; `fuel` is the number of frames that may come. -/
def awaitFrames (ticket : Nat) : Nat → Bench α → CommandResult α × Bench α
  | 0, b => (.error sessionGone, b.kill)
  | fuel + 1, b =>
    let b := b.frame
    match b.answer? ticket with
    | some result => (result, b)
    | none => awaitFrames ticket fuel b

/-- Waits for the answer to a ticket. The session serves what has arrived; then, if need be, frames
come. -/
def await (b : Bench α) (ticket : Nat) : CommandResult α × Bench α :=
  let b := b.serve
  let (result, b) := match b.answer? ticket with
    | some result => (result, b)
    | none => awaitFrames ticket b.budget b
  (result, { b with world := { b.world with receipts := b.world.receipts.take ticket } })

/-- Sends a request that is acknowledged, and waits for the acknowledgement. -/
def sendAcknowledged (b : Bench α) (request : Nat → Request α) :
    Except (ArmError α) Nat × Bench α :=
  if b.world.isRunning then
    let ack := b.world.acks.size
    let b := { b with world := { b.world with acks := b.world.acks.push none } }
    let b := (b.send (request ack)).serve
    match b.world.acks[ack]? with
    | some (some aborted) => (.ok aborted, b)
    | _ => (.error sessionGone, b)
  else (.error sessionGone, b)

/-- Sends a request that is not acknowledged. -/
def sendPlain (b : Bench α) (request : Request α) : Except (ArmError α) Unit × Bench α :=
  if b.world.isRunning then (.ok (), b.send request) else (.error sessionGone, b)

instance : Agent α (StateM (Bench α)) where
  submit kind b := b.submit kind
  submitCommand c b := b.submitCommand c
  await ticket b := b.await ticket
  setSpeed value b := b.sendPlain (.setSpeed value)
  resetPath b := b.sendPlain .resetPath
  stop b := b.sendAcknowledged .stop
  hardReset b := b.sendAcknowledged .hardReset
  snapshot b := (b.world.latest, b)

end Bench

end PlanarArm
