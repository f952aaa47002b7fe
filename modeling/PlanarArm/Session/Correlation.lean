import PlanarArm.Command.Completion

/-!
# Who waits for which command

A sender that waits for a command does so under a ticket, a number of its own. The table
`Correlation` says which ticket waits under which identifier, and `Receipts` says for each ticket
what has come of it. A ticket is answered at most once.
-/

namespace PlanarArm

/-! ## The table -/

/-- The tickets that wait, under the identifiers of their commands. -/
structure Correlation where
  /-- The identifiers with their tickets. No identifier is there twice. -/
  slots : List (CommandId × Nat)

namespace Correlation

/-- Nobody waits. -/
def empty : Correlation :=
  ⟨[]⟩

/-- The ticket that waits under an identifier. -/
def find? (t : Correlation) (id : CommandId) : Option Nat :=
  t.slots.lookup id

/-- Whether a ticket waits under an identifier. -/
def contains (t : Correlation) (id : CommandId) : Bool :=
  (t.find? id).isSome

/-- The number of tickets that wait. -/
def size (t : Correlation) : Nat :=
  t.slots.length

/-- Why no ticket may wait under an identifier now: it has the form that is kept for numbered
commands, or another ticket waits under it. -/
def refusal? {α : Type} (t : Correlation) (id : CommandId) : Option (ArmError α) :=
  if id.isSub then
    some (.invalidArgument ("command id '" ++ id.text ++
      "' is reserved for expanded sub-commands"))
  else if t.contains id then
    some (.invalidArgument ("command id '" ++ id.text ++ "' is already in flight"))
  else none

/-- Lets a ticket wait under an identifier. -/
def insert (t : Correlation) (id : CommandId) (ticket : Nat) : Correlation :=
  ⟨(id, ticket) :: t.slots⟩

/-- Nobody waits under an identifier any more. -/
def erase (t : Correlation) (id : CommandId) : Correlation :=
  ⟨t.slots.filter (·.1 ≠ id)⟩

/-- All tickets that wait. -/
def tickets (t : Correlation) : List Nat :=
  t.slots.map Prod.snd

end Correlation

/-! ## Tickets -/

/-- What has come of a ticket. -/
inductive Receipt (α : Type) where
  /-- Nothing yet. -/
  | waiting
  /-- An answer that has not been looked at. -/
  | answered (result : CommandResult α)
  /-- An answer that has been looked at. -/
  | taken
  /-- Its holder has thrown it away. -/
  | dropped
  /-- Nobody is left to answer it. -/
  | lost

/-- What has come of each ticket, by its number. -/
structure Receipts (α : Type) where
  /-- The receipts of the tickets handed out so far. -/
  cells : Array (Receipt α)

namespace Receipts

variable {α : Type}

/-- No ticket has been handed out. -/
def empty : Receipts α :=
  ⟨#[]⟩

/-- Hands out a ticket. -/
def issue (r : Receipts α) : Nat × Receipts α :=
  (r.cells.size, ⟨r.cells.push .waiting⟩)

/-- Whether somebody waits with a ticket. -/
def isWaiting (r : Receipts α) (ticket : Nat) : Bool :=
  match r.cells[ticket]? with
  | some .waiting => true
  | _ => false

/-- Answers a ticket, if somebody waits with it. -/
def answer (r : Receipts α) (ticket : Nat) (result : CommandResult α) : Receipts α :=
  if r.isWaiting ticket then ⟨r.cells.setIfInBounds ticket (.answered result)⟩ else r

/-- Throws a ticket away. -/
def drop (r : Receipts α) (ticket : Nat) : Receipts α :=
  ⟨r.cells.setIfInBounds ticket .dropped⟩

/-- Marks an answer as looked at. -/
def take (r : Receipts α) (ticket : Nat) : Receipts α :=
  ⟨r.cells.setIfInBounds ticket .taken⟩

/-- Nobody is left to answer the tickets with which somebody waits. -/
def abandon (r : Receipts α) : Receipts α :=
  ⟨r.cells.map fun
    | .waiting => .lost
    | receipt => receipt⟩

end Receipts

/-! ## Table and tickets together -/

/-- Senders that wait for commands, and what has come of their tickets. -/
structure Awaits (α : Type) where
  /-- Who waits. -/
  table : Correlation
  /-- What has come of the tickets. -/
  receipts : Receipts α

namespace Awaits

variable {α : Type}

/-- Nobody has waited yet. -/
def empty : Awaits α :=
  ⟨.empty, .empty⟩

/-- Hands out a ticket that is to wait under an identifier. If it may not, the refusal is its
answer. -/
def register (a : Awaits α) (id : CommandId) : Option (ArmError α) × Awaits α :=
  let (ticket, receipts) := a.receipts.issue
  match a.table.refusal? id with
  | some e => (some e, ⟨a.table, receipts.answer ticket (.error e)⟩)
  | none => (none, ⟨a.table.insert id ticket, receipts⟩)

/-- Gives the result to whoever waits under an identifier; also says whether somebody got it. -/
def settle (a : Awaits α) (id : CommandId) (result : CommandResult α) : Bool × Awaits α :=
  match a.table.find? id with
  | none => (false, a)
  | some ticket =>
    (a.receipts.isWaiting ticket, ⟨a.table.erase id, a.receipts.answer ticket result⟩)

/-- Gives the result of a command to whoever waits for it. -/
def resolve (a : Awaits α) (event : CompletionEvent α) : Bool × Awaits α :=
  a.settle event.id event.result

/-- Gives an error to whoever waits under an identifier. -/
def reject (a : Awaits α) (id : CommandId) (e : ArmError α) : Bool × Awaits α :=
  a.settle id (.error e)

/-- Gives an error to all that wait; also returns their number. -/
def failAll (a : Awaits α) (e : ArmError α) : Nat × Awaits α :=
  (a.table.size,
    ⟨.empty, a.table.tickets.foldl (fun r ticket => r.answer ticket (.error e)) a.receipts⟩)

/-- Throws a ticket away. -/
def drop (a : Awaits α) (ticket : Nat) : Awaits α :=
  ⟨a.table, a.receipts.drop ticket⟩

end Awaits

end PlanarArm
