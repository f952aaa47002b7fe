import PlanarArm.Session.Basic
import PlanarArm.Session.Broadcast

/-!
# A session and those around it

`World` is a session together with all that senders and subscribers can see of it: the requests that
it has not served yet, what has come of the tickets, the broadcast reports, the snapshot that was
published last, and the acknowledgements. An effect of the session changes the world outside of it
(`World.absorb`); a session that has ended or was killed changes nothing any more.
-/

namespace PlanarArm

/-- Whether a session goes on. -/
inductive Liveness where
  /-- It goes on. -/
  | running
  /-- It ended when the last sender had gone. -/
  | ended
  /-- It was killed. -/
  | aborted
deriving DecidableEq, Repr

/-- A session and what can be seen of it. -/
structure World (α : Type) where
  /-- The session. -/
  session : Session α
  /-- Whether it goes on. -/
  liveness : Liveness
  /-- The requests that have not been served, oldest first. -/
  inbox : Array (Request α)
  /-- What has come of the tickets. -/
  receipts : Receipts α
  /-- The channel of the reports. -/
  reports : Broadcast (CompletionEvent α)
  /-- The snapshot that was published last. -/
  latest : Snapshot α
  /-- The acknowledgements, by the numbers of the requests that asked for them. -/
  acks : Array (Option Nat)

namespace World

variable {α : Type} [Scalar α]

/-- A world around a new session. -/
def create (simulator : Simulator α) (maxStep : α) (reportCapacity : Nat) : World α where
  session := .create simulator maxStep
  liveness := .running
  inbox := #[]
  receipts := .empty
  reports := .create reportCapacity
  latest := simulator.snapshot
  acks := #[]

/-- Whether the session goes on. -/
def isRunning {α : Type} (w : World α) : Bool :=
  w.liveness = .running

/-- The outside after one effect of the session. -/
def absorb {α : Type} (w : World α) : Effect α → World α
  | .answered ticket result => { w with receipts := w.receipts.answer ticket result }
  | .broadcast event => { w with reports := (w.reports.publish event).2 }
  | .published snapshot => { w with latest := snapshot }
  | .acknowledged ack aborted => { w with acks := w.acks.setIfInBounds ack (some aborted) }

/-- The session does one thing, and the outside takes in what it does. -/
def act (w : World α) (action : Action α) : World α :=
  let (session, effects) := w.session.step action
  effects.foldl absorb { w with session := session }

/-- A request arrives. -/
def send {α : Type} (w : World α) (r : Request α) : World α :=
  { w with inbox := w.inbox.push r }

/-- The session serves all requests that have arrived. -/
def serve (w : World α) : World α :=
  w.inbox.foldl (fun w r => w.act (.request r)) { w with inbox := #[] }

/-- The session serves what has arrived and then a frame. -/
def frame (w : World α) (now : Nat) : World α :=
  w.serve.act (.frame now)

/-- The session is killed. Requests that have not been served are lost, and so is everybody who
waits. -/
def abort {α : Type} (w : World α) : World α :=
  { w with liveness := .aborted, inbox := #[], receipts := w.receipts.abandon }

/-- The last sender goes: the session serves what has arrived and ends. -/
def finish (w : World α) : World α :=
  let w := w.serve.act .finish
  { w with liveness := .ended, receipts := w.receipts.abandon }

end World

end PlanarArm
