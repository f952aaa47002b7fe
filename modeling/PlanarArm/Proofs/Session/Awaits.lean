import PlanarArm.Proofs.Command.SubId
import PlanarArm.Proofs.Session.Receipts
import PlanarArm.Proofs.Session.Table
import PlanarArm.Proofs.Simulator.Lines

/-!
# Waiting for commands

A `Call` is anything that can be done with a table of waiting tickets and with the tickets
themselves. Whatever calls there have been, the table and the tickets agree (`Awaits.Coherent`):
each slot has a ticket of its own, with which somebody waits or which has been thrown away. So the
fate of an accepted ticket is told by the calls behind its registration alone (`Awaits.fate`), and
the slots that are left are those of the accepted registrations without a verdict
(`Awaits.unsettled`).

The identifiers under which tickets may wait are not those of the points of a line
(`numbered_ids_reserved`).
-/

namespace PlanarArm

variable {α : Type}

namespace Awaits

/-! ## Calls -/

/-- Something that is done with the table or with a ticket. A holder who has gone even before the
registration is one who throws the ticket away as the next thing. -/
inductive Call (α : Type) where
  /-- A new ticket is to wait under an identifier. -/
  | register (id : CommandId)
  /-- The result of a command is there. -/
  | resolve (event : CompletionEvent α)
  /-- A command is refused. -/
  | reject (id : CommandId) (error : ArmError α)
  /-- All commands are refused. -/
  | failAll (error : ArmError α)
  /-- The holder of a ticket throws it away. -/
  | drop (ticket : Nat)

/-- What the call says to whoever waits under an identifier. -/
def Call.verdictOn? (id : CommandId) : Call α → Option (CommandResult α)
  | .resolve event => if event.id = id then some event.result else none
  | .reject other error => if other = id then some (.error error) else none
  | .failAll error => some (.error error)
  | .register _ | .drop _ => none

/-- Whether the call throws a ticket away. -/
def Call.drops (ticket : Nat) : Call α → Bool
  | .drop other => other == ticket
  | _ => false

/-- Table and tickets after one more call. -/
def after (a : Awaits α) : Call α → Awaits α
  | .register id => (a.register id).2
  | .resolve event => (a.resolve event).2
  | .reject id error => (a.reject id error).2
  | .failAll error => (a.failAll error).2
  | .drop ticket => a.drop ticket

/-- Table and tickets after more calls. -/
def run (a : Awaits α) (calls : List (Call α)) : Awaits α :=
  calls.foldl after a

/-- What has come of a ticket that waits under an identifier when these calls have been made. -/
def fate (id : CommandId) (ticket : Nat) (calls : List (Call α)) : Receipt α :=
  if calls.any (·.drops ticket) then .dropped
  else
    match calls.findSome? (·.verdictOn? id) with
    | some result => .answered result
    | none => .waiting

/-- The identifier of a registration that is accepted. -/
def admitted? (a : Awaits α) : Call α → Option CommandId
  | .register id => if (a.register id).1.isNone then some id else none
  | _ => none

/-- Whether no call says anything to whoever waits under an identifier. -/
def unanswered (calls : List (Call α)) (id : CommandId) : Bool :=
  (calls.findSome? (·.verdictOn? id)).isNone

/-- The accepted registrations among calls that no later one of these settles, in order. -/
def unsettled (a : Awaits α) : List (Call α) → List CommandId
  | [] => []
  | call :: later =>
    (a.admitted? call).toList.filter (unanswered later) ++ (a.after call).unsettled later

/-- Somebody waits under the identifier, and has not thrown the ticket away. -/
def Listens (a : Awaits α) (id : CommandId) : Prop :=
  ∃ ticket, a.table.find? id = some ticket ∧ a.receipts.cells[ticket]? ≠ some .dropped

variable {a : Awaits α} {id : CommandId} {ticket : Nat}

/-! ## What each call does -/

theorem register_of_refused {e : ArmError α} (refused : a.table.refusal? id = some e) :
    a.register id = (some e, ⟨a.table, ⟨a.receipts.cells.push (.answered (.error e))⟩⟩) := by
  have own : a.receipts.issue.2.cells[a.receipts.cells.size]? = some .waiting := by
    rw [Receipts.getElem?_issue, if_pos rfl]
  have answered : (a.receipts.issue.2.answer a.receipts.cells.size (.error e)).cells =
      a.receipts.cells.push (.answered (.error e)) := by
    refine Array.ext_getElem? fun other => ?_
    rw [Receipts.getElem?_answer own, Receipts.getElem?_issue, Array.getElem?_push]
    by_cases new : other = a.receipts.cells.size
    · rw [if_pos new.symm, if_pos new]
    · rw [if_neg (Ne.symm new), if_neg new, if_neg new]
  simp only [register, refused]
  exact congrArg (fun cells => (some e, Awaits.mk a.table ⟨cells⟩)) answered

theorem register_of_allowed (allowed : a.table.refusal? (α := α) id = none) :
    a.register id = (none, ⟨a.table.insert id a.receipts.cells.size, a.receipts.issue.2⟩) := by
  simp only [register, allowed]
  rfl

theorem refusal_register (a : Awaits α) (id : CommandId) :
    (a.register id).1 = a.table.refusal? id := by
  cases verdict : a.table.refusal? (α := α) id with
  | some e => rw [register_of_refused verdict]
  | none => rw [register_of_allowed verdict]

theorem register_eq_none_iff :
    (a.register id).1 = none ↔ ¬id.IsNumbered ∧ a.table.contains id = false := by
  rw [refusal_register, ← CommandId.isSub_iff, ← Bool.not_eq_true, Correlation.contains_iff,
    ← not_or, ← Correlation.refusal?_isSome_iff (α := α), Option.not_isSome_iff_eq_none]

theorem settle_of_find? (found : a.table.find? id = some ticket) (result : CommandResult α) :
    a.settle id result =
      (a.receipts.isWaiting ticket, ⟨a.table.erase id, a.receipts.answer ticket result⟩) := by
  simp only [settle, found]

/-- The slot is taken out whether somebody still waits or not. -/
theorem table_settle (a : Awaits α) (id : CommandId) (result : CommandResult α) :
    (a.settle id result).2.table = a.table.erase id := by
  cases found : a.table.find? id with
  | some ticket => rw [settle_of_find? found]
  | none =>
    have absent : id ∉ a.table.keys := by
      rw [← Correlation.contains_iff, Correlation.contains, found]
      exact Bool.false_ne_true
    simp only [settle, found]
    exact (Correlation.erase_of_not_mem absent).symm

theorem getElem?_register (known : ticket < a.receipts.cells.size) (id : CommandId) :
    (a.register id).2.receipts.cells[ticket]? = a.receipts.cells[ticket]? := by
  have old : ticket ≠ a.receipts.cells.size := Nat.ne_of_lt known
  cases verdict : a.table.refusal? (α := α) id with
  | some e =>
    rw [register_of_refused verdict]
    exact Array.getElem?_push.trans (if_neg old)
  | none =>
    rw [register_of_allowed verdict, Receipts.getElem?_issue, if_neg old]

theorem receipts_failAll (a : Awaits α) (error : ArmError α) :
    (a.failAll error).2.receipts =
      a.receipts.answerAll (a.table.tickets.map (·, .error error)) := by
  rw [failAll, Receipts.answerAll, List.foldl_map]

/-- Once it is known what has come of a ticket, a call changes that only by throwing it away. -/
theorem getElem?_after_of_closed {receipt : Receipt α}
    (found : a.receipts.cells[ticket]? = some receipt) (closed : receipt ≠ .waiting)
    (call : Call α) :
    (a.after call).receipts.cells[ticket]? =
      some (if call.drops ticket then .dropped else receipt) := by
  have settled (id : CommandId) (result : CommandResult α) :
      (a.settle id result).2.receipts.cells[ticket]? = some receipt := by
    unfold settle
    split
    · exact found
    · next other _ => exact Receipts.getElem?_answerAll_of_closed found closed [(other, result)]
  cases call with
  | register id => exact (getElem?_register (Receipts.lt_of_getElem? found) id).trans found
  | resolve event => exact settled event.id event.result
  | reject id error => exact settled id (.error error)
  | failAll error =>
    rw [after, receipts_failAll]
    exact Receipts.getElem?_answerAll_of_closed found closed _
  | drop other =>
    rw [after, drop, Receipts.getElem?_drop found]
    simp only [Call.drops, beq_iff_eq]

/-! ## What all calls keep -/

/-- Table and tickets agree. -/
structure Coherent (a : Awaits α) : Prop where
  /-- Nobody waits under an identifier of the form that is kept for numbered commands. -/
  plain : ∀ id ∈ a.table.keys, ¬id.IsNumbered
  /-- No identifier is there twice. -/
  distinct : a.table.keys.Nodup
  /-- No ticket is there twice. -/
  own : a.table.tickets.Nodup
  /-- A ticket that is there has no answer. -/
  awaited : ∀ ticket ∈ a.table.tickets,
    a.receipts.cells[ticket]? = some .waiting ∨ a.receipts.cells[ticket]? = some .dropped

namespace Coherent

theorem empty : (Awaits.empty : Awaits α).Coherent :=
  ⟨nofun, .nil, .nil, nofun⟩

theorem known (coherent : a.Coherent) (mem : ticket ∈ a.table.tickets) :
    ticket < a.receipts.cells.size :=
  (coherent.awaited ticket mem).elim Receipts.lt_of_getElem? Receipts.lt_of_getElem?

theorem register (coherent : a.Coherent) (id : CommandId) : (a.register id).2.Coherent := by
  have kept : ∀ ticket ∈ a.table.tickets,
      (a.register id).2.receipts.cells[ticket]? = some .waiting ∨
        (a.register id).2.receipts.cells[ticket]? = some .dropped := by
    intro ticket mem
    rw [getElem?_register (coherent.known mem)]
    exact coherent.awaited ticket mem
  cases verdict : a.table.refusal? (α := α) id with
  | some e =>
    rw [register_of_refused verdict] at kept ⊢
    exact ⟨coherent.plain, coherent.distinct, coherent.own, kept⟩
  | none =>
    obtain ⟨plain, absent⟩ := Correlation.new_of_not_refused verdict
    rw [register_of_allowed verdict] at kept ⊢
    refine ⟨?_, ?_, ?_, ?_⟩
    · intro other mem
      rcases List.mem_cons.1 mem with rfl | mem
      · exact CommandId.isSub_eq_false_iff.1 plain
      · exact coherent.plain other mem
    · exact List.nodup_cons.2 ⟨absent, coherent.distinct⟩
    · exact List.nodup_cons.2
        ⟨fun mem => absurd (coherent.known mem) (Nat.lt_irrefl _), coherent.own⟩
    · intro ticket mem
      rcases List.mem_cons.1 mem with rfl | mem
      · exact .inl Array.getElem?_push_size
      · exact kept ticket mem

theorem settle (coherent : a.Coherent) (id : CommandId) (result : CommandResult α) :
    (a.settle id result).2.Coherent := by
  cases found : a.table.find? id with
  | none =>
    simp only [Awaits.settle, found]
    exact coherent
  | some ticket =>
    rw [settle_of_find? found]
    have keys := a.table.keys_erase_sublist id
    have tickets := a.table.tickets_erase_sublist id
    refine ⟨fun other mem => coherent.plain other (keys.subset mem), keys.nodup coherent.distinct,
      tickets.nodup coherent.own, fun other mem => ?_⟩
    have gone := Correlation.ticket_not_mem_erase coherent.own found
    rw [Receipts.getElem?_answer_eq, if_neg]
    · exact coherent.awaited other (tickets.subset mem)
    · rintro ⟨rfl, -⟩
      exact gone mem

theorem failAll (a : Awaits α) (error : ArmError α) : (a.failAll error).2.Coherent :=
  ⟨nofun, .nil, .nil, nofun⟩

theorem drop (coherent : a.Coherent) (ticket : Nat) : (a.drop ticket).Coherent := by
  refine ⟨coherent.plain, coherent.distinct, coherent.own, fun other mem => ?_⟩
  rcases coherent.awaited other mem with found | found
  · have dropped := Receipts.getElem?_drop found ticket
    split at dropped
    · exact .inr dropped
    · exact .inl dropped
  · have dropped := Receipts.getElem?_drop found ticket
    rw [ite_self] at dropped
    exact .inr dropped

theorem after (coherent : a.Coherent) (call : Call α) : (a.after call).Coherent := by
  cases call with
  | register id => exact coherent.register id
  | resolve event => exact coherent.settle event.id event.result
  | reject id error => exact coherent.settle id (.error error)
  | failAll error => exact .failAll a error
  | drop ticket => exact coherent.drop ticket

theorem run (coherent : a.Coherent) (calls : List (Call α)) : (a.run calls).Coherent := by
  induction calls generalizing a with
  | nil => exact coherent
  | cons call later ih => exact ih (coherent.after call)

/-- Somebody gets the result exactly if somebody has waited and not thrown the ticket away. -/
theorem settle_iff (coherent : a.Coherent) (id : CommandId) (result : CommandResult α) :
    (a.settle id result).1 = true ↔ a.Listens id := by
  cases found : a.table.find? id with
  | none =>
    simp [Awaits.settle, Listens, found]
  | some ticket =>
    have mem : ticket ∈ a.table.tickets := List.mem_map_of_mem (Correlation.mem_of_find? found)
    rw [settle_of_find? found, Receipts.isWaiting_iff, Listens, found]
    rcases coherent.awaited ticket mem with waits | dropped
    · simp [waits]
    · simp [dropped]

/-- Whoever waits under an identifier gets what is said under it. -/
theorem settle_own (coherent : a.Coherent) (slot : (id, ticket) ∈ a.table.slots)
    (waits : a.receipts.cells[ticket]? = some .waiting) (result : CommandResult α) :
    (a.settle id result).2.receipts.cells[ticket]? = some (.answered result) := by
  have found := (Correlation.erase_of_perm coherent.distinct (List.perm_cons_erase slot)).1
  rw [settle_of_find? found, Receipts.getElem?_answer waits, if_pos rfl]

/-- Whoever waits under another identifier goes on to wait. -/
theorem settle_other (coherent : a.Coherent) (slot : (id, ticket) ∈ a.table.slots)
    (waits : a.receipts.cells[ticket]? = some .waiting) {other : CommandId} (apart : other ≠ id)
    (result : CommandResult α) :
    (id, ticket) ∈ (a.settle other result).2.table.slots ∧
      (a.settle other result).2.receipts.cells[ticket]? = some .waiting := by
  cases found : a.table.find? other with
  | none =>
    simp only [Awaits.settle, found]
    exact ⟨slot, waits⟩
  | some held =>
    rw [settle_of_find? found]
    refine ⟨List.mem_filter.2 ⟨slot, decide_eq_true (Ne.symm apart)⟩, ?_⟩
    rw [Receipts.getElem?_answer_eq, if_neg, waits]
    rintro ⟨rfl, -⟩
    exact apart
      (Correlation.id_eq_of_mem_slots coherent.own (Correlation.mem_of_find? found) slot)

end Coherent

/-! ## What comes of a ticket -/

section

variable {call : Call α}

theorem getElem?_after_of_drops (known : ticket < a.receipts.cells.size)
    (dropped : call.drops ticket = true) :
    (a.after call).receipts.cells[ticket]? = some .dropped := by
  cases call with
  | drop other =>
    obtain rfl := beq_iff_eq.1 dropped
    rw [after, drop, Receipts.drop, Array.getElem?_setIfInBounds, if_pos rfl, if_pos known]
  | _ => cases dropped

/-- Whoever waits gets what a call says. -/
theorem getElem?_after_of_verdict (coherent : a.Coherent) (slot : (id, ticket) ∈ a.table.slots)
    (waits : a.receipts.cells[ticket]? = some .waiting) {result : CommandResult α}
    (verdict : call.verdictOn? id = some result) :
    (a.after call).receipts.cells[ticket]? = some (.answered result) := by
  cases call with
  | resolve event =>
    obtain ⟨rfl, same⟩ := Option.ite_none_right_eq_some.1 verdict
    cases same
    exact coherent.settle_own slot waits event.result
  | reject other error =>
    obtain ⟨rfl, same⟩ := Option.ite_none_right_eq_some.1 verdict
    cases same
    exact coherent.settle_own slot waits (.error error)
  | failAll error =>
    cases verdict
    rw [after, receipts_failAll]
    exact Receipts.getElem?_answerAll_of_mem waits (List.mem_map_of_mem slot) _
  | register _ | drop _ => cases verdict

/-- Whoever waits goes on to wait while no call says anything. -/
theorem waits_after (coherent : a.Coherent) (slot : (id, ticket) ∈ a.table.slots)
    (waits : a.receipts.cells[ticket]? = some .waiting) (silent : call.verdictOn? id = none)
    (kept : call.drops ticket = false) :
    (id, ticket) ∈ (a.after call).table.slots ∧
      (a.after call).receipts.cells[ticket]? = some .waiting := by
  cases call with
  | register other =>
    refine ⟨?_, (getElem?_register (Receipts.lt_of_getElem? waits) other).trans waits⟩
    cases verdict : a.table.refusal? (α := α) other with
    | some e =>
      rw [after, register_of_refused verdict]
      exact slot
    | none =>
      rw [after, register_of_allowed verdict]
      exact List.mem_cons_of_mem _ slot
  | resolve event =>
    have apart : event.id ≠ id := fun same => by simp [Call.verdictOn?, same] at silent
    exact coherent.settle_other slot waits apart event.result
  | reject other error =>
    have apart : other ≠ id := fun same => by simp [Call.verdictOn?, same] at silent
    exact coherent.settle_other slot waits apart (.error error)
  | failAll error => cases silent
  | drop other =>
    have apart : ¬other = ticket := beq_eq_false_iff_ne.1 kept
    have still := Receipts.getElem?_drop waits other
    rw [if_neg apart] at still
    exact ⟨slot, still⟩

end

theorem getElem?_run_of_closed {receipt : Receipt α}
    (found : a.receipts.cells[ticket]? = some receipt) (closed : receipt ≠ .waiting)
    (calls : List (Call α)) :
    (a.run calls).receipts.cells[ticket]? =
      some (if calls.any (·.drops ticket) then .dropped else receipt) := by
  induction calls generalizing a receipt with
  | nil => exact found
  | cons call later ih =>
    have next := getElem?_after_of_closed found closed call
    rw [List.any_cons]
    cases dropped : call.drops ticket with
    | true =>
      rw [dropped, if_pos rfl] at next
      have after := ih next nofun
      rw [ite_self] at after
      exact after
    | false =>
      rw [dropped, if_neg Bool.false_ne_true] at next
      exact ih next closed

/-- The calls behind a registration tell what comes of its ticket. -/
theorem getElem?_run (coherent : a.Coherent) (slot : (id, ticket) ∈ a.table.slots)
    (waits : a.receipts.cells[ticket]? = some .waiting) (calls : List (Call α)) :
    (a.run calls).receipts.cells[ticket]? = some (fate id ticket calls) := by
  -- The slot and its waiting ticket are kept up to the first call that ends the wait; from then on
  -- only the holder can do anything.
  induction calls generalizing a with
  | nil => exact waits
  | cons call later ih =>
    cases dropped : call.drops ticket with
    | true =>
      have next := getElem?_after_of_drops (Receipts.lt_of_getElem? waits) dropped
      have settled := getElem?_run_of_closed next nofun later
      rw [ite_self] at settled
      rw [fate, List.any_cons, dropped, Bool.true_or, if_pos rfl]
      exact settled
    | false =>
      cases verdict : call.verdictOn? id with
      | some result =>
        have next := getElem?_after_of_verdict coherent slot waits verdict
        rw [fate, List.any_cons, dropped, Bool.false_or, List.findSome?_cons, verdict]
        exact getElem?_run_of_closed next nofun later
      | none =>
        obtain ⟨kept, still⟩ := waits_after coherent slot waits verdict dropped
        have rest := ih (coherent.after call) kept still
        rw [fate, List.any_cons, dropped, Bool.false_or, List.findSome?_cons, verdict]
        exact rest

/-! ## Who is left -/

/-- A call lets those wait on to whom it says nothing, and whom it registers. -/
theorem keys_after (a : Awaits α) (call : Call α) :
    (a.after call).table.keys =
      (a.admitted? call).toList ++ a.table.keys.filter fun id => (call.verdictOn? id).isNone := by
  have all : (a.table.keys.filter fun _ => true) = a.table.keys := List.filter_true _
  have others (result : CommandResult α) (other id : CommandId) :
      decide (id ≠ other) = (if other = id then some result else none).isNone := by
    by_cases same : other = id
    · simp [same]
    · simp [same, Ne.symm same]
  cases call with
  | register id =>
    cases verdict : a.table.refusal? (α := α) id with
    | some e =>
      rw [after, admitted?, register_of_refused verdict]
      exact all.symm
    | none =>
      rw [after, admitted?, register_of_allowed verdict]
      exact congrArg (id :: ·) all.symm
  | resolve event =>
    rw [after, resolve, table_settle, Correlation.keys_erase]
    exact List.filter_congr fun id _ => others event.result event.id id
  | reject other error =>
    rw [after, reject, table_settle, Correlation.keys_erase]
    exact List.filter_congr fun id _ => others (.error error) other id
  | failAll error => exact (List.filter_false _).symm
  | drop ticket => exact all.symm

/-- Those are left who have been registered or have waited before, and have not been answered. -/
theorem keys_run_perm (a : Awaits α) (calls : List (Call α)) :
    (a.run calls).table.keys.Perm
      (a.unsettled calls ++ a.table.keys.filter (unanswered calls)) := by
  -- A registration now counts as one who has waited before for all calls behind it.
  induction calls generalizing a with
  | nil =>
    exact .of_eq (List.filter_true a.table.keys).symm
  | cons call later ih =>
    have silent : ∀ id ∈ a.table.keys, (unanswered later id && (call.verdictOn? id).isNone) =
        unanswered (call :: later) id := by
      intro id _
      cases verdict : call.verdictOn? id <;> simp [unanswered, verdict]
    refine (ih (a.after call)).trans ?_
    rw [keys_after, List.filter_append, List.filter_filter, unsettled, List.filter_congr silent,
      ← List.append_assoc]
    exact List.perm_append_comm.append_right _

end Awaits

/-- Whatever has been done with a table and its tickets, nobody waits under an identifier of the
form that is kept for numbered commands. A registration is accepted exactly if its identifier is not
of that form and nobody waits under it. A ticket that is refused has an invalid argument as its
answer at once, nothing else is changed by it, and no call changes the answer. What comes of a
ticket that is accepted is told by what is done afterwards: the first result or refusal of its
identifier, or refusal of all, whichever is first, is its answer, which no later call changes, unless
its holder throws it away. A result or a refusal is given to somebody exactly if somebody waits under the
identifier and has not thrown the ticket away, and the slot is taken out in any case. A refusal of
all returns their number and leaves none. The identifiers in the table are those of the accepted
registrations that no later call has settled. -/
theorem awaits_settled_once (calls : List (Awaits.Call α)) :
    let a := (Awaits.empty : Awaits α).run calls
    let ticket := a.receipts.cells.size
    (∀ id ∈ a.table.keys, ¬id.IsNumbered) ∧
    (∀ id, (a.register id).1 = none ↔ ¬id.IsNumbered ∧ a.table.contains id = false) ∧
    (∀ id e, (a.register id).1 = some e → (∃ reason, e = .invalidArgument reason) ∧
      (a.register id).2 = ⟨a.table, ⟨a.receipts.cells.push (.answered (.error e))⟩⟩ ∧
      ∀ later, ((a.register id).2.run later).receipts.cells[ticket]? =
        some (if later.any (·.drops ticket) then .dropped else .answered (.error e))) ∧
    (∀ id, (a.register id).1 = none → ∀ later,
      ((a.register id).2.run later).receipts.cells[ticket]? =
        some (Awaits.fate id ticket later)) ∧
    (∀ event, ((a.resolve event).1 = true ↔ a.Listens event.id) ∧
      (a.resolve event).2.table = a.table.erase event.id) ∧
    (∀ id error, ((a.reject id error).1 = true ↔ a.Listens id) ∧
      (a.reject id error).2.table = a.table.erase id) ∧
    (∀ error, (a.failAll error).1 = a.table.size ∧ (a.failAll error).2.table = .empty) ∧
    a.table.keys.Perm (Awaits.empty.unsettled calls) ∧
    a.table.size = (Awaits.empty.unsettled calls).length := by
  intro a ticket
  have coherent : a.Coherent := Awaits.Coherent.empty.run calls
  have keys : a.table.keys.Perm (Awaits.empty.unsettled calls) := by
    have left := (Awaits.empty : Awaits α).keys_run_perm calls
    have none : (Awaits.empty : Awaits α).table.keys.filter (Awaits.unanswered calls) = [] := rfl
    rw [none, List.append_nil] at left
    exact left
  have size : a.table.size = a.table.keys.length := (List.length_map _).symm
  refine ⟨coherent.plain, fun id => Awaits.register_eq_none_iff, fun id e refused => ?_,
    fun id allowed later => ?_, fun event => ⟨coherent.settle_iff _ _, a.table_settle _ _⟩,
    fun id error => ⟨coherent.settle_iff _ _, a.table_settle _ _⟩, fun error => ⟨rfl, rfl⟩, keys,
    size.trans keys.length_eq⟩
  · rw [Awaits.refusal_register] at refused
    have answered : (a.register id).2.receipts.cells[ticket]? = some (.answered (.error e)) := by
      rw [Awaits.register_of_refused refused]
      exact Array.getElem?_push_size
    refine ⟨Correlation.invalidArgument_of_refused refused, ?_,
      Awaits.getElem?_run_of_closed answered nofun⟩
    rw [Awaits.register_of_refused refused]
  · have further := coherent.register id
    rw [Awaits.refusal_register] at allowed
    rw [Awaits.register_of_allowed allowed] at further ⊢
    exact Awaits.getElem?_run further List.mem_cons_self Array.getElem?_push_size later

/-- Two tickets are to wait under one identifier, and the first is refused later on. -/
theorem awaits_settled_once_twice :
    let id : CommandId := ⟨"a"⟩
    let again : ArmError Float := .invalidArgument "command id 'a' is already in flight"
    let cells := (Awaits.empty.run [.register id, .register id, .reject id .stopped]).receipts.cells
    ((Awaits.empty : Awaits Float).register id).1 = none ∧
      ((Awaits.empty.run [.register id]).register id).1 = some again ∧
      cells[0]? = some (.answered (.error .stopped)) ∧
      cells[1]? = some (.answered (.error again)) := by
  intro id again cells
  have plain : id.isSub = false := by decide
  have accepted : ((Awaits.empty : Awaits Float).register id).1 = none :=
    Awaits.register_eq_none_iff.2 ⟨CommandId.isSub_eq_false_iff.1 plain, rfl⟩
  have waits : (Awaits.empty.run [.register id] : Awaits Float) =
      ⟨.insert .empty id 0, ⟨#[.waiting]⟩⟩ :=
    congrArg Prod.snd (Awaits.register_of_allowed (Awaits.refusal_register .empty id ▸ accepted))
  have refused : ((Awaits.empty.run [.register id]).register id).1 = some again := by
    rw [Awaits.refusal_register, waits, Correlation.refusal?, plain, if_neg Bool.false_ne_true]
    rfl
  have first := (awaits_settled_once []).2.2.2.1 id accepted [.register id, .reject id .stopped]
  have second := ((awaits_settled_once [.register id]).2.2.1 id again refused).2.2
    [.reject id .stopped]
  have ticket : (Awaits.empty.run [.register id] : Awaits Float).receipts.cells.size = 1 := by
    rw [waits]
    rfl
  rw [ticket] at second
  exact ⟨accepted, refused, first, second⟩

/-! ## Identifiers that are kept -/

/-- A numbered identifier is recognised as one, and tells whose it is and which number it has. So
no identifier under which a registration is accepted is that of a point of a line, and points of
lines under different identifiers never share one. -/
theorem numbered_ids_reserved :
    (∀ (id : CommandId) (i : Nat), (id.sub i).isSub = true) ∧
    (∀ (id other : CommandId) (i j : Nat), id.sub i = other.sub j ↔ id = other ∧ i = j) ∧
    (∀ {β : Type} (a : Awaits β) (id : CommandId), (a.register id).1 = none →
      (∀ parent i, id ≠ CommandId.sub parent i) ∧
      ∀ {α : Type} [Scalar α] (parent : CommandId) (source target : Point α) (steps : Nat),
        ∀ part ∈ lineCommands parent source target steps, id ≠ part.id) ∧
    (∀ {α : Type} [Scalar α] (parent other : CommandId) (s t u v : Point α) (m n : Nat),
      parent ≠ other → List.Disjoint ((lineCommands parent s t m).map Command.id)
        ((lineCommands other u v n).map Command.id)) := by
  refine ⟨CommandId.isSub_sub, fun _ _ _ _ => CommandId.sub_eq_sub_iff, ?_, ?_⟩
  · intro β a id accepted
    have plain := (Awaits.register_eq_none_iff.1 accepted).1
    have apart : ∀ parent i, id ≠ CommandId.sub parent i := by
      rintro parent i rfl
      exact plain (CommandId.isSub_iff.1 (parent.isSub_sub i))
    refine ⟨apart, fun parent source target steps part mem => ?_⟩
    obtain ⟨i, same⟩ := exists_sub_of_mem_lineCommands mem
    rw [same]
    exact apart parent i
  · intro α _ parent other s t u v m n differ id mine theirs
    obtain ⟨part, mem, rfl⟩ := List.mem_map.1 mine
    obtain ⟨point, member, same⟩ := List.mem_map.1 theirs
    obtain ⟨i, numbered⟩ := exists_sub_of_mem_lineCommands mem
    obtain ⟨j, numbered'⟩ := exists_sub_of_mem_lineCommands member
    rw [numbered, numbered'] at same
    exact differ (CommandId.sub_eq_sub_iff.1 same).1.symm

/-- A colon alone does not make a numbered identifier. -/
theorem numbered_ids_reserved_task :
    let id : CommandId := ⟨"task:a"⟩
    ((Awaits.empty : Awaits Float).register id).1 = none ∧ id ≠ CommandId.sub ⟨"task"⟩ 1 ∧
      (⟨"task"⟩ : CommandId) ≠ ⟨"task:1"⟩ ∧
      List.Disjoint
        ((lineCommands ⟨"task"⟩ (⟨0, 0⟩ : Point Float) ⟨1, 0⟩ 2).map Command.id)
        ((lineCommands ⟨"task:1"⟩ (⟨0, 0⟩ : Point Float) ⟨1, 0⟩ 2).map Command.id) := by
  intro id
  have accepted : ((Awaits.empty : Awaits Float).register id).1 = none :=
    Awaits.register_eq_none_iff.2 ⟨CommandId.isSub_eq_false_iff.1 (by decide), rfl⟩
  have differ : (⟨"task"⟩ : CommandId) ≠ ⟨"task:1"⟩ := by decide
  obtain ⟨-, -, senders, lines⟩ := numbered_ids_reserved
  exact ⟨accepted, (senders _ id accepted).1 ⟨"task"⟩ 1, differ, lines _ _ _ _ _ _ _ _ differ⟩

end PlanarArm
