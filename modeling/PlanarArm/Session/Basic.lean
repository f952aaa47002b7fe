import PlanarArm.Session.Correlation
import PlanarArm.Session.FrameClock
import PlanarArm.Simulator.Snapshot

/-!
# The session loop

A session owns a simulator and serves the senders of commands. It does one thing at a time: a frame,
which lets time pass, or a request. What either does to the outside is a list of effects in the
order in which they happen (`Effect`): somebody who waits gets an answer, a report is broadcast, a
snapshot is published, or a request is acknowledged.
-/

namespace PlanarArm

/-- What senders can ask a session for. -/
inductive Request (α : Type) where
  /-- Run a command; the ticket waits for its result. -/
  | submit (command : Command α) (ticket : Nat)
  /-- Set the speed scale. -/
  | setSpeed (value : α)
  /-- Forget the path of the hand. -/
  | resetPath
  /-- Abort all commands. -/
  | stop (ack : Nat)
  /-- Abort all commands and start afresh. -/
  | hardReset (ack : Nat)

/-- What a session does to the outside. -/
inductive Effect (α : Type) where
  /-- A ticket gets its answer. -/
  | answered (ticket : Nat) (result : CommandResult α)
  /-- A report goes to all subscribers. -/
  | broadcast (event : CompletionEvent α)
  /-- A snapshot replaces the one that was published before. -/
  | published (snapshot : Snapshot α)
  /-- A request is acknowledged with the number of commands that it aborted. -/
  | acknowledged (ack aborted : Nat)

/-- What a session does next. -/
inductive Action (α : Type) where
  /-- A frame at a moment in nanoseconds. -/
  | frame (now : Nat)
  /-- A request. -/
  | request (r : Request α)
  /-- The end: nobody is left who could send a request. -/
  | finish

/-- A simulator with its clock and those who wait for its commands. -/
structure Session (α : Type) where
  /-- The simulator. -/
  simulator : Simulator α
  /-- Who waits for which command. -/
  table : Correlation
  /-- The clock of the frames. -/
  clock : FrameClock α

namespace Session

variable {α : Type} [Scalar α]

/-- A session around a simulator. -/
def create (simulator : Simulator α) (maxStep : α) : Session α :=
  ⟨simulator, .empty, .create maxStep⟩

/-- Gives a report to whoever waits for the command, and to all subscribers. -/
def deliver {α : Type} (table : Correlation) (event : CompletionEvent α) :
    Correlation × List (Effect α) :=
  match table.find? event.id with
  | some ticket => (table.erase event.id, [.answered ticket event.result, .broadcast event])
  | none => (table, [.broadcast event])

/-- Gives out reports one after the other. -/
def deliverAll {α : Type} (table : Correlation) (effects : Array (Effect α)) :
    List (CompletionEvent α) → Correlation × Array (Effect α)
  | [] => (table, effects)
  | event :: rest =>
    let (table, new) := deliver table event
    deliverAll table (effects ++ new) rest

/-- Gives out all reports that the simulator has made. -/
def flush {α : Type} (s : Session α) : Session α × Array (Effect α) :=
  let (events, simulator) := s.simulator.drain
  let (table, effects) := deliverAll s.table #[] events.toList
  (⟨simulator, table, s.clock⟩, effects)

/-- A frame: time passes, reports are given out, a snapshot is published. -/
def frame (s : Session α) (now : Nat) : Session α × Array (Effect α) :=
  let (dt, clock) := s.clock.step now
  let (s, effects) := flush ⟨s.simulator.tick dt, s.table, clock⟩
  (s, effects.push (.published s.simulator.snapshot))

/-- Takes in a command for which a ticket waits. A refused one is answered at once and leaves no
trace; an accepted one may end at once as well. -/
def submit (s : Session α) (c : Command α) (ticket : Nat) : Session α × Array (Effect α) :=
  match s.table.refusal? c.id with
  | some e => (s, #[.answered ticket (.error e)])
  | none =>
    match s.simulator.enqueue c with
    | .error e => (s, #[.answered ticket (.error e)])
    | .ok simulator => flush ⟨simulator, s.table.insert c.id ticket, s.clock⟩

/-- Gives an error to all that still wait. -/
def failAll {α : Type} (s : Session α) (e : ArmError α) : Session α × Array (Effect α) :=
  (⟨s.simulator, .empty, s.clock⟩,
    (s.table.tickets.map fun ticket => Effect.answered ticket (.error e)).toArray)

/-- What follows an abort: reports are given out, whoever still waits is told that it is over, and a
snapshot is published. -/
def settleAbort (s : Session α) : Session α × Array (Effect α) :=
  let (s, reports) := s.flush
  let (s, failures) := s.failAll .stopped
  (s, (reports ++ failures).push (.published s.simulator.snapshot))

/-- Serves a request. -/
def handle (s : Session α) : Request α → Session α × Array (Effect α)
  | .submit c ticket => s.submit c ticket
  | .setSpeed value => (⟨s.simulator.setSpeed value, s.table, s.clock⟩, #[])
  | .resetPath =>
    let simulator := s.simulator.resetPath
    (⟨simulator, s.table, s.clock⟩, #[.published simulator.snapshot])
  | .stop ack =>
    let (simulator, aborted) := s.simulator.stop
    let (s, effects) := settleAbort ⟨simulator, s.table, s.clock⟩
    (s, effects.push (.acknowledged ack aborted))
  | .hardReset ack =>
    let (simulator, aborted) := s.simulator.hardReset
    let (s, effects) := settleAbort ⟨simulator, s.table, s.clock⟩
    (⟨s.simulator, s.table, s.clock.reset⟩, effects.push (.acknowledged ack aborted))

/-- The end: all commands are aborted, and whoever still waits is told that there is nobody to
answer. -/
def finish {α : Type} (s : Session α) : Session α × Array (Effect α) :=
  let (simulator, _) := s.simulator.stop
  let (s, reports) := flush ⟨simulator, s.table, s.clock⟩
  let (s, failures) := s.failAll (.channel "simulation driver shut down")
  (s, reports ++ failures)

/-- Does one thing. -/
def step (s : Session α) : Action α → Session α × Array (Effect α)
  | .frame now => s.frame now
  | .request r => s.handle r
  | .finish => s.finish

end Session

end PlanarArm
