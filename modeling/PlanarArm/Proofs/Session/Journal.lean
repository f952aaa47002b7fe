import PlanarArm.Proofs.Session.Table
import PlanarArm.Proofs.Simulator.History
import PlanarArm.Session.Basic

/-!
# Sessions with their past

`Journal` is a session together with the past of its simulator, everything that it has done to the
outside, and what has come of the submissions: the tickets of those that were taken in, in order,
and the refusals. `Session.operations` says what an action of the session does with the simulator,
so that everything that is known about histories of simulators holds of the one in a journal.
-/

namespace PlanarArm

variable {α : Type}

/-! ## Effects -/

/-- The ticket and the answer that it gets. -/
def Effect.answer? : Effect α → Option (Nat × CommandResult α)
  | .answered ticket result => some (ticket, result)
  | _ => none

/-- The report that is broadcast. -/
def Effect.report? : Effect α → Option (CompletionEvent α)
  | .broadcast event => some event
  | _ => none

/-- All answers, oldest first. -/
def answers (effects : List (Effect α)) : List (Nat × CommandResult α) :=
  effects.filterMap Effect.answer?

/-- All broadcast reports, oldest first. -/
def reports (effects : List (Effect α)) : List (CompletionEvent α) :=
  effects.filterMap Effect.report?

@[simp]
theorem answers_append (effects new : List (Effect α)) :
    answers (effects ++ new) = answers effects ++ answers new :=
  List.filterMap_append

@[simp]
theorem reports_append (effects new : List (Effect α)) :
    reports (effects ++ new) = reports effects ++ reports new :=
  List.filterMap_append

/-! ## What comes of a submission -/

namespace Session

variable [Scalar α]

/-- Why a command is refused now. -/
def refusal? (s : Session α) (c : Command α) : Option (ArmError α) :=
  match s.table.refusal? c.id with
  | some e => some e
  | none =>
    match s.simulator.enqueue c with
    | .error e => some e
    | .ok _ => none

theorem refusal?_of_table {s : Session α} {c : Command α} {e : ArmError α}
    (first : s.table.refusal? c.id = some e) : s.refusal? c = some e := by
  rw [refusal?, first]

theorem refusal?_of_error {s : Session α} {c : Command α} {e : ArmError α}
    (first : s.table.refusal? (α := α) c.id = none) (second : s.simulator.enqueue c = .error e) :
    s.refusal? c = some e := by
  rw [refusal?, first, second]

theorem refusal?_of_ok {s : Session α} {c : Command α} {u : Simulator α}
    (first : s.table.refusal? (α := α) c.id = none) (second : s.simulator.enqueue c = .ok u) :
    s.refusal? c = none := by
  rw [refusal?, first, second]

theorem submit_of_refusal {s : Session α} {c : Command α} {e : ArmError α}
    (refused : s.refusal? c = some e) (ticket : Nat) :
    s.submit c ticket = (s, #[.answered ticket (.error e)]) := by
  cases first : s.table.refusal? (α := α) c.id with
  | some other =>
    cases (refusal?_of_table first).symm.trans refused
    rw [submit, first]
  | none =>
    cases second : s.simulator.enqueue c with
    | error other =>
      cases (refusal?_of_error first second).symm.trans refused
      rw [submit, first, second]
    | ok t => cases (refusal?_of_ok first second).symm.trans refused

/-- A command that is not refused is taken in, and its ticket waits for it. -/
theorem submit_of_accepted {s : Session α} {c : Command α} (accepted : s.refusal? c = none)
    (ticket : Nat) :
    ∃ t, s.table.refusal? (α := α) c.id = none ∧ s.simulator.enqueue c = .ok t ∧
      s.submit c ticket = flush ⟨t, s.table.insert c.id ticket, s.clock⟩ := by
  cases first : s.table.refusal? (α := α) c.id with
  | some other => cases (refusal?_of_table first).symm.trans accepted
  | none =>
    cases second : s.simulator.enqueue c with
    | error other => cases (refusal?_of_error first second).symm.trans accepted
    | ok t =>
      refine ⟨t, rfl, rfl, ?_⟩
      rw [submit, first, second]

theorem step_submit {s : Session α} {c : Command α} {t : Simulator α}
    (allowed : s.table.refusal? (α := α) c.id = none) (taken : s.simulator.enqueue c = .ok t)
    (ticket : Nat) :
    s.step (.request (.submit c ticket)) = flush ⟨t, s.table.insert c.id ticket, s.clock⟩ := by
  rw [step, handle, submit, allowed, taken]

theorem step_of_refusal {s : Session α} {c : Command α} {e : ArmError α}
    (refused : s.refusal? c = some e) (ticket : Nat) :
    s.step (.request (.submit c ticket)) = (s, #[.answered ticket (.error e)]) :=
  submit_of_refusal refused ticket

theorem invalidArgument_of_enqueue {s : Simulator α} {c : Command α} {e : ArmError α}
    (failed : s.enqueue c = .error e) : ∃ reason, e = .invalidArgument reason := by
  unfold Simulator.enqueue at failed
  split at failed
  · next checked =>
    cases failed
    unfold CommandKind.check at checked
    split at checked
    · next faulty =>
      cases checked
      obtain ⟨field, -, rfl⟩ := Option.map_eq_some_iff.1 faulty
      exact ⟨_, rfl⟩
    · cases checked
  · cases failed

theorem invalidArgument_of_refusal {s : Session α} {c : Command α} {e : ArmError α}
    (refused : s.refusal? c = some e) : ∃ reason, e = .invalidArgument reason := by
  cases first : s.table.refusal? (α := α) c.id with
  | some other =>
    cases (refusal?_of_table first).symm.trans refused
    exact Correlation.invalidArgument_of_refused first
  | none =>
    cases second : s.simulator.enqueue c with
    | error other =>
      cases (refusal?_of_error first second).symm.trans refused
      exact invalidArgument_of_enqueue second
    | ok t => cases (refusal?_of_ok first second).symm.trans refused

/-- What an action does with the simulator. -/
def operations (s : Session α) : Action α → List (Operation α)
  | .frame now => [.tick (s.clock.step now).1, .drain]
  | .request (.submit c _) =>
    match s.refusal? c with
    | some _ => []
    | none => [.enqueue c, .drain]
  | .request (.setSpeed value) => [.setSpeed value]
  | .request .resetPath => [.resetPath]
  | .request (.stop _) => [.stop, .drain]
  | .request (.hardReset _) => [.hardReset, .drain]
  | .finish => [.stop, .drain]

/-- The ticket of the command that an action takes in. -/
def admission? (s : Session α) : Action α → Option Nat
  | .request (.submit c ticket) =>
    match s.refusal? c with
    | some _ => none
    | none => some ticket
  | _ => none

/-- The ticket of the command that an action refuses, and why. -/
def rejection? (s : Session α) : Action α → Option (Nat × ArmError α)
  | .request (.submit c ticket) => (s.refusal? c).map fun e => (ticket, e)
  | _ => none

end Session

/-! ## Journals -/

/-- A session with its past. -/
structure Journal (α : Type) where
  /-- The session as it is now. -/
  session : Session α
  /-- Its simulator with its past. -/
  engine : History α
  /-- Everything that the session has done to the outside, oldest first. -/
  effects : List (Effect α)
  /-- The tickets of the commands that have been taken in, the first one first. -/
  tickets : List Nat
  /-- The tickets of the commands that have been refused, and why. -/
  refusals : List (Nat × ArmError α)

namespace Journal

variable [Scalar α]

/-- The journal of a new session. -/
def start (m : ArmModel α) (speed maxStep : α) : Journal α where
  session := .create (.withSpeed m speed) maxStep
  engine := .start (.withSpeed m speed)
  effects := []
  tickets := []
  refusals := []

/-- The journal after one more action. -/
def after (j : Journal α) (action : Action α) : Journal α where
  session := (j.session.step action).1
  engine := j.engine.run (j.session.operations action)
  effects := j.effects ++ (j.session.step action).2.toList
  tickets := j.tickets ++ (j.session.admission? action).toList
  refusals := j.refusals ++ (j.session.rejection? action).toList

theorem after_of_taken {j : Journal α} {c : Command α} (taken : j.session.refusal? c = none)
    (ticket : Nat) :
    (j.after (.request (.submit c ticket))).tickets = j.tickets ++ [ticket] ∧
      (j.after (.request (.submit c ticket))).engine = (j.engine.after (.enqueue c)).after .drain ∧
      (j.after (.request (.submit c ticket))).refusals = j.refusals := by
  rw [after, Session.operations, Session.admission?, Session.rejection?, taken]
  simp

/-- The journal after more actions, one after the other. -/
def run (j : Journal α) (actions : List (Action α)) : Journal α :=
  actions.foldl after j

@[simp]
theorem run_nil (j : Journal α) : j.run [] = j := rfl

@[simp]
theorem run_cons (j : Journal α) (action : Action α) (rest : List (Action α)) :
    j.run (action :: rest) = (j.after action).run rest := rfl

@[simp]
theorem run_append (j : Journal α) (before rest : List (Action α)) :
    j.run (before ++ rest) = (j.run before).run rest :=
  List.foldl_append

theorem run_keeps {holds : Journal α → Prop}
    (step : ∀ (j : Journal α) (action : Action α), holds j → holds (j.after action))
    {j : Journal α} (start : holds j) (actions : List (Action α)) : holds (j.run actions) := by
  induction actions generalizing j with
  | nil => exact start
  | cons action rest ih => exact ih (step j action start)

end Journal

end PlanarArm
