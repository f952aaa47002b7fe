import PlanarArm.Proofs.Session.Answers
import PlanarArm.Proofs.Session.Balance
import PlanarArm.Proofs.Session.Receipts

/-!
# Senders and their session, in any order

`Happening` lists what can happen around a session, in the smallest pieces: a request is sent, the
oldest one is served, a frame comes, a ticket is looked at or thrown away, the last sender goes, the
session is killed. A `Course` is a world together with the journal of its session and the commands
that have been submitted, by their tickets.

* `Journal.Quiet.served`: an action takes in or refuses the submission that it serves, if any.
* `World.act_eq`: outside of the session, its effects answer tickets and do little more.
* `Course.run_frame`, `Course.run_leave`: a session that serves all that has arrived before a frame
  or the end goes through such a course.
-/

namespace PlanarArm

variable {α : Type}

/-- What can happen around a session. -/
inductive Happening (α : Type) where
  /-- A command is submitted. -/
  | submit (command : Command α)
  /-- A request for a speed scale is sent. -/
  | setSpeed (value : α)
  /-- A request to forget the path of the hand is sent. -/
  | resetPath
  /-- A request to abort all commands is sent. -/
  | stop
  /-- A request to abort all commands and to start afresh is sent. -/
  | hardReset
  /-- The session serves the oldest request. -/
  | serve
  /-- A frame comes. -/
  | frame (now : Nat)
  /-- The holder of a ticket throws it away. -/
  | drop (ticket : Nat)
  /-- The holder of a ticket looks at its answer and is done with it. -/
  | take (ticket : Nat)
  /-- The last sender has gone and no request is left, so the session ends. -/
  | leave
  /-- The session is killed. -/
  | kill

/-- A world, the journal of its session, and the submitted commands by their tickets. -/
structure Course (α : Type) where
  /-- The session and what can be seen of it. -/
  world : World α
  /-- The session with its past. -/
  journal : Journal α
  /-- The commands that have been submitted; a ticket is a place in this list. -/
  submitted : List (Command α)

namespace Course

variable [Scalar α]

/-- A new session, around which nothing has happened. -/
def start (m : ArmModel α) (speed maxStep : α) (reportCapacity : Nat) : Course α :=
  ⟨.create (.withSpeed m speed) maxStep reportCapacity, .start m speed maxStep, []⟩

/-- The session does one thing. -/
def act (c : Course α) (action : Action α) : Course α :=
  ⟨c.world.act action, c.journal.after action, c.submitted⟩

/-- A command is submitted under a new ticket. -/
def submit {α : Type} (c : Course α) (command : Command α) : Course α :=
  let (ticket, receipts) := c.world.receipts.issue
  ⟨{ c.world with receipts := receipts }.send (.submit command ticket), c.journal,
    c.submitted ++ [command]⟩

/-- A request that is not acknowledged is sent. -/
def sendPlain {α : Type} (c : Course α) (request : Request α) : Course α :=
  ⟨c.world.send request, c.journal, c.submitted⟩

/-- A request that is acknowledged is sent. -/
def sendAcknowledged {α : Type} (c : Course α) (request : Nat → Request α) : Course α :=
  ⟨{ c.world with acks := c.world.acks.push none }.send (request c.world.acks.size), c.journal,
    c.submitted⟩

/-- The session serves the oldest request, if there is one. -/
def serve (c : Course α) : Course α :=
  match c.world.inbox.toList with
  | [] => c
  | r :: rest =>
    act ⟨{ c.world with inbox := rest.toArray }, c.journal, c.submitted⟩ (.request r)

/-- The session ends, if no request is left. -/
def leave (c : Course α) : Course α :=
  match c.world.inbox.toList with
  | [] => ⟨c.world.finish, c.journal.after .finish, c.submitted⟩
  | _ :: _ => c

/-- The holder of a ticket is done with it. -/
def close {α : Type} (c : Course α) (receipts : Receipts α) : Course α :=
  ⟨{ c.world with receipts := receipts }, c.journal, c.submitted⟩

/-- What the session and its senders do while the session goes on. -/
def proceed (c : Course α) : Happening α → Course α
  | .submit command => c.submit command
  | .setSpeed value => c.sendPlain (.setSpeed value)
  | .resetPath => c.sendPlain .resetPath
  | .stop => c.sendAcknowledged .stop
  | .hardReset => c.sendAcknowledged .hardReset
  | .serve => c.serve
  | .frame now => c.act (.frame now)
  | .drop ticket => c.close (c.world.receipts.drop ticket)
  | .take ticket => c.close (c.world.receipts.take ticket)
  | .leave => c.leave
  | .kill => ⟨c.world.abort, c.journal, c.submitted⟩

/-- What happens when the session has gone: only the holders of tickets do anything. -/
def linger {α : Type} (c : Course α) : Happening α → Course α
  | .drop ticket => c.close (c.world.receipts.drop ticket)
  | .take ticket => c.close (c.world.receipts.take ticket)
  | _ => c

/-- The course of things after one more happening. -/
def after (c : Course α) (happening : Happening α) : Course α :=
  if c.world.isRunning then c.proceed happening else c.linger happening

/-- The course of things after more happenings. -/
def run (c : Course α) (happenings : List (Happening α)) : Course α :=
  happenings.foldl after c

end Course

namespace Course

variable [Scalar α]

/-- Whatever happens, the session does one thing more or nothing. -/
theorem journal_after (c : Course α) (happening : Happening α) :
    (c.after happening).journal = c.journal ∨
      ∃ action, (c.after happening).journal = c.journal.after action := by
  unfold after
  split
  · cases happening with
    | serve =>
      unfold proceed serve
      dsimp only
      split
      · exact .inl rfl
      · next r rest inbox => exact .inr ⟨.request r, rfl⟩
    | frame now => exact .inr ⟨.frame now, rfl⟩
    | leave =>
      unfold proceed leave
      dsimp only
      split
      · exact .inr ⟨.finish, rfl⟩
      · exact .inl rfl
    | _ => exact .inl rfl
  · cases happening <;> exact .inl rfl

/-- An answer that has been given stays given. -/
theorem answers_after (c : Course α) (happening : Happening α) :
    answers c.journal.effects ⊆ answers (c.after happening).journal.effects := by
  rcases c.journal_after happening with same | ⟨action, one⟩
  · rw [same]
    exact List.Subset.refl _
  · rw [one, Journal.after, answers_append]
    exact List.subset_append_left _ _

theorem answers_run (c : Course α) (happenings : List (Happening α)) :
    answers c.journal.effects ⊆ answers (c.run happenings).journal.effects := by
  induction happenings generalizing c with
  | nil => exact List.Subset.refl _
  | cons happening rest ih =>
    exact List.Subset.trans (c.answers_after happening) (ih (c.after happening))

theorem after_serve {c : Course α} {r : Request α} {rest : List (Request α)}
    (running : c.world.isRunning = true) (next : c.world.inbox.toList = r :: rest) :
    c.after .serve =
      act ⟨{ c.world with inbox := rest.toArray }, c.journal, c.submitted⟩ (.request r) := by
  rw [after, if_pos running, proceed, serve, next]

/-- What every action of a session keeps is kept by a course of things. -/
theorem journal_run_keeps {holds : Journal α → Prop}
    (step : ∀ (j : Journal α) (action : Action α), holds j → holds (j.after action))
    {c : Course α} (start : holds c.journal) (happenings : List (Happening α)) :
    holds (c.run happenings).journal := by
  induction happenings generalizing c with
  | nil => exact start
  | cons happening rest ih =>
    refine ih ?_
    rcases c.journal_after happening with same | ⟨action, one⟩
    · rw [same]
      exact start
    · rw [one]
      exact step c.journal action start

end Course

/-! ## What an action of the session changes -/

/-- The command that a request submits, with its ticket. -/
def Request.submission? : Request α → Option (Command α × Nat)
  | .submit command ticket => some (command, ticket)
  | _ => none

/-- The command that an action takes in or refuses, with its ticket. -/
def Action.submission? : Action α → Option (Command α × Nat)
  | .request r => r.submission?
  | _ => none

/-- The submissions among requests. -/
def submissions (requests : List (Request α)) : List (Command α × Nat) :=
  requests.filterMap Request.submission?

@[simp]
theorem submissions_append (requests later : List (Request α)) :
    submissions (requests ++ later) = submissions requests ++ submissions later :=
  List.filterMap_append

theorem submissions_singleton (r : Request α) : submissions [r] = r.submission?.toList := by
  cases r <;> rfl

/-- What becomes of the submission that an action serves: it is taken in or refused. -/
inductive Served (before after : Journal α) : Option (Command α × Nat) → Prop
  | other (tickets : after.tickets = before.tickets)
      (accepted : after.engine.accepted = before.engine.accepted)
      (refusals : after.refusals = before.refusals) : Served before after none
  | taken {c : Command α} {ticket : Nat} (tickets : after.tickets = before.tickets ++ [ticket])
      (accepted : after.engine.accepted = before.engine.accepted ++ [c])
      (refusals : after.refusals = before.refusals) : Served before after (some (c, ticket))
  | refused {c : Command α} {ticket : Nat} {reason : String}
      (tickets : after.tickets = before.tickets)
      (accepted : after.engine.accepted = before.engine.accepted)
      (refusals : after.refusals = before.refusals ++ [(ticket, .invalidArgument reason)]) :
      Served before after (some (c, ticket))

namespace Served

variable {before after : Journal α} {x : Option (Command α × Nat)}

theorem places (served : Served before after x) (later : List Nat) :
    (after.refusals.map Prod.fst ++ after.tickets ++ later).Perm
      (before.refusals.map Prod.fst ++ before.tickets ++
        (x.toList.map Prod.snd ++ later)) := by
  cases served with
  | other tickets accepted refusals =>
    rw [tickets, refusals]
    exact .refl _
  | taken tickets accepted refusals =>
    rw [tickets, refusals, ← List.append_assoc _ _ later, List.append_assoc _ before.tickets]
    exact .refl _
  | @refused _ ticket _ tickets accepted refusals =>
    rw [tickets, refusals, List.map_append, List.append_assoc, List.append_assoc, List.append_assoc]
    exact (List.perm_append_comm_assoc [ticket] before.tickets later).append_left _

/-- The commands that have been taken in are those submitted under their tickets. -/
theorem commands {submitted : List (Command α)} (served : Served before after x)
    (sent : ∀ y ∈ x.toList, submitted[y.2]? = some y.1)
    (taken : before.tickets.map (fun ticket => submitted[ticket]?) =
      before.engine.accepted.map some) :
    after.tickets.map (fun ticket => submitted[ticket]?) = after.engine.accepted.map some := by
  cases served with
  | other tickets accepted refusals =>
    rw [tickets, accepted]
    exact taken
  | taken tickets accepted refusals =>
    rw [tickets, accepted, List.map_append, List.map_append, taken]
    exact congrArg (_ ++ [·]) (sent _ List.mem_cons_self)
  | refused tickets accepted refusals =>
    rw [tickets, accepted]
    exact taken

theorem invalid (served : Served before after x)
    (refused : ∀ y ∈ before.refusals, ∃ reason, y.2 = .invalidArgument reason) :
    ∀ y ∈ after.refusals, ∃ reason, y.2 = .invalidArgument reason := by
  cases served with
  | other tickets accepted refusals =>
    rw [refusals]
    exact refused
  | taken tickets accepted refusals =>
    rw [refusals]
    exact refused
  | refused tickets accepted refusals =>
    rw [refusals]
    intro y mem
    rcases List.mem_append.1 mem with old | new
    · exact refused y old
    · cases List.mem_singleton.1 new
      exact ⟨_, rfl⟩

end Served

theorem Journal.Quiet.served [Scalar α] {j : Journal α} (quiet : j.Quiet) (action : Action α) :
    Served j (j.after action) action.submission? := by
  have other {action : Action α} (taken : j.session.admission? action = none)
      (refused : j.session.rejection? action = none)
      (accepted : (j.after action).engine.accepted = j.engine.accepted) :
      Served j (j.after action) none := by
    rw [Journal.Quiet.after_of_plain rfl taken refused] at accepted ⊢
    exact .other rfl accepted rfl
  cases action with
  | frame now => exact other rfl rfl rfl
  | request r =>
    cases r with
    | submit c ticket =>
      cases verdict : j.session.refusal? c with
      | some e =>
        obtain ⟨reason, rfl⟩ := Session.invalidArgument_of_refusal verdict
        have after : (j.after (.request (.submit c ticket))).tickets = j.tickets ∧
            (j.after (.request (.submit c ticket))).engine = j.engine ∧
            (j.after (.request (.submit c ticket))).refusals =
              j.refusals ++ [(ticket, .invalidArgument reason)] := by
          rw [Journal.after, Session.operations, Session.admission?, Session.rejection?, verdict]
          simp
        obtain ⟨tickets, engine, refusals⟩ := after
        exact .refused tickets (congrArg History.accepted engine) refusals
      | none =>
        obtain ⟨t, -, enqueued, -⟩ := Session.submit_of_accepted verdict ticket
        obtain ⟨tickets, engine, refusals⟩ := Journal.after_of_taken verdict ticket
        have accepted : (j.engine.after (.enqueue c)).accepted = j.engine.accepted ++ [c] := by
          rw [History.after, quiet.same, enqueued]
        exact .taken tickets ((congrArg History.accepted engine).trans accepted) refusals
    | setSpeed value => exact other rfl rfl rfl
    | resetPath => exact other rfl rfl rfl
    | stop ack => exact other rfl rfl rfl
    | hardReset ack => exact other rfl rfl rfl
  | finish => exact other rfl rfl rfl

theorem World.foldl_absorb (effects : List (Effect α)) (w : World α) :
    (effects.foldl World.absorb w).session = w.session ∧
      (effects.foldl World.absorb w).liveness = w.liveness ∧
      (effects.foldl World.absorb w).inbox = w.inbox ∧
      (effects.foldl World.absorb w).receipts = w.receipts.answerAll (answers effects) := by
  induction effects generalizing w with
  | nil => exact ⟨rfl, rfl, rfl, rfl⟩
  | cons effect rest ih =>
    obtain ⟨session, liveness, inbox, receipts⟩ := ih (w.absorb effect)
    rw [List.foldl_cons, session, liveness, inbox, receipts]
    cases effect <;> exact ⟨rfl, rfl, rfl, rfl⟩

theorem World.act_eq [Scalar α] (w : World α) (action : Action α) :
    (w.act action).session = (w.session.step action).1 ∧
      (w.act action).liveness = w.liveness ∧ (w.act action).inbox = w.inbox ∧
      (w.act action).receipts =
        w.receipts.answerAll (answers (w.session.step action).2.toList) := by
  have absorbed := World.foldl_absorb (w.session.step action).2.toList
    { w with session := (w.session.step action).1 }
  rw [Array.foldl_toList] at absorbed
  exact absorbed

theorem World.serve_of_empty [Scalar α] {w : World α} (empty : w.inbox.toList = []) :
    w.serve = { w with inbox := #[] } := by
  rw [World.serve, Array.toList_eq_nil_iff.1 empty]
  rfl

/-! ## Serving all that has arrived -/

/-- An action of the session neither reads nor changes the inbox. -/
theorem World.act_inbox [Scalar α] (w : World α) (inbox : Array (Request α)) (action : Action α) :
    { w with inbox := inbox }.act action = { w.act action with inbox := inbox } := by
  have absorbed (effects : List (Effect α)) (w : World α) :
      effects.foldl World.absorb { w with inbox := inbox } =
        { effects.foldl World.absorb w with inbox := inbox } := by
    induction effects generalizing w with
    | nil => rfl
    | cons effect rest ih =>
      have first : ({ w with inbox := inbox } : World α).absorb effect =
          { w.absorb effect with inbox := inbox } := by cases effect <;> rfl
      rw [List.foldl_cons, first, ih, List.foldl_cons]
  have whole := absorbed (w.session.step action).2.toList
    { w with session := (w.session.step action).1 }
  rw [Array.foldl_toList, Array.foldl_toList] at whole
  exact whole

namespace Course

variable [Scalar α] {c : Course α}

/-- The oldest requests are served one after the other, and the later ones stay. -/
theorem run_serves (requests later : List (Request α)) (running : c.world.isRunning = true)
    (inbox : c.world.inbox.toList = requests ++ later) :
    let served := requests.foldl (fun w r => w.act (.request r))
      { c.world with inbox := later.toArray }
    (c.run (List.replicate requests.length .serve)).world = served ∧
      served.isRunning = true ∧ served.inbox = later.toArray := by
  induction requests generalizing c with
  | nil =>
    refine ⟨?_, running, rfl⟩
    show c.world = { c.world with inbox := later.toArray }
    rw [← List.nil_append later, ← inbox, Array.toArray_toList]
  | cons r rest ih =>
    have served : c.after .serve = act ⟨{ c.world with inbox := (rest ++ later).toArray },
        c.journal, c.submitted⟩ (.request r) := after_serve running inbox
    have world : (c.after .serve).world =
        { c.world.act (.request r) with inbox := (rest ++ later).toArray } := by
      rw [served]
      exact World.act_inbox c.world _ (.request r)
    have going : (c.after .serve).world.isRunning = true := by
      rw [world, ← running]
      exact congrArg (fun l => decide (l = .running)) (World.act_eq c.world (.request r)).2.1
    have next := ih going (congrArg (fun w => w.inbox.toList) world)
    rw [world] at next
    rw [List.foldl_cons, World.act_inbox]
    exact next

/-- Serving requests one after the other is serving all of them at once. -/
theorem run_replicate (requests : List (Request α)) (running : c.world.isRunning = true)
    (inbox : c.world.inbox.toList = requests) :
    (c.run (List.replicate requests.length .serve)).world = c.world.serve ∧
      c.world.serve.isRunning = true ∧ c.world.serve.inbox = #[] := by
  rw [World.serve, ← Array.foldl_toList, inbox]
  exact run_serves requests [] running (inbox.trans (List.append_nil requests).symm)

/-- A session that serves whatever has arrived before a frame goes through a course. -/
theorem run_frame (running : c.world.isRunning = true) (now : Nat) :
    (c.run (List.replicate c.world.inbox.size .serve ++ [.frame now])).world =
      c.world.frame now := by
  obtain ⟨served, going, -⟩ := c.run_replicate c.world.inbox.toList running rfl
  rw [Array.length_toList] at served
  rw [run, List.foldl_append]
  rw [← served] at going
  show (after (c.run _) (.frame now)).world = _
  rw [after, if_pos going, World.frame, ← served]
  rfl

/-- And so does one that serves whatever has arrived before it ends. -/
theorem run_leave (running : c.world.isRunning = true) :
    (c.run (List.replicate c.world.inbox.size .serve ++ [.leave])).world = c.world.finish := by
  obtain ⟨served, going, empty⟩ := c.run_replicate c.world.inbox.toList running rfl
  rw [Array.length_toList] at served
  rw [← served] at going empty
  have again : (c.run (List.replicate c.world.inbox.size .serve)).world.serve = c.world.serve := by
    rw [World.serve_of_empty (congrArg Array.toList empty), ← empty, served]
  rw [run, List.foldl_append]
  show (after (c.run _) .leave).world = _
  rw [after, if_pos going, proceed, leave, congrArg Array.toList empty]
  dsimp only
  rw [World.finish, again, World.finish]

end Course

end PlanarArm
