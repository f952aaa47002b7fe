import PlanarArm.Proofs.Session.Once
import PlanarArm.Proofs.Simulator.Verdicts
import PlanarArm.Scalar.Binary64

/-!
# Refused submissions

A submission is refused for its identifier or for its numbers. The first is found out before
anything is done, the second when the ticket already waits in the table (`Session.submitInStages`),
and the ticket has to be taken out again. Either way nothing is left of it but one answer.

* `Session.submitInStages_eq`: taking the ticket out again leaves the table as it was.
* `Journal.Quiet.mem_keys_iff_awaited`: the table knows what is awaited.
* `refused_without_trace`: all of it together, whatever has happened before.
-/

namespace PlanarArm

variable {α : Type}

/-! ## The numbers of a command -/

section

variable [Scalar α]

/-- Whether all numbers that a command carries are finite. -/
def CommandKind.isFinite (kind : CommandKind α) : Bool :=
  kind.numbers.all fun field => Scalar.isFinite field.2

theorem CommandKind.check_eq_ok_iff {kind : CommandKind α} :
    kind.check = .ok () ↔ kind.isFinite = true := by
  have faultless : kind.fault? = none ↔ kind.isFinite = true := by
    simp [fault?, isFinite]
  rw [← faultless]
  unfold check
  cases kind.fault? with
  | none => exact iff_of_true rfl rfl
  | some e => exact iff_of_false nofun nofun

theorem Simulator.enqueue_eq_error_iff {s : Simulator α} {c : Command α} :
    (∃ e, s.enqueue c = .error e) ↔ c.kind.isFinite = false := by
  rw [← Bool.not_eq_true, ← CommandKind.check_eq_ok_iff]
  unfold enqueue
  cases c.kind.check with
  | error e => exact iff_of_true ⟨e, rfl⟩ nofun
  | ok _ => exact iff_of_false (fun ⟨_, failed⟩ => nomatch failed) (fun other => other rfl)

end

/-! ## The two stages -/

namespace Session

variable [Scalar α]

/-- A submission, stage by stage: the ticket waits in the table before the arm hears of the command,
and when the arm refuses it, whoever waits under its identifier is taken out and told. -/
def submitInStages (s : Session α) (c : Command α) (ticket : Nat) :
    Session α × Array (Effect α) :=
  match s.table.refusal? c.id with
  | some e => (s, #[.answered ticket (.error e)])
  | none =>
    let parked := s.table.insert c.id ticket
    match s.simulator.enqueue c with
    | .error e =>
      let told := (parked.find? c.id).toList.map fun ticket => Effect.answered ticket (.error e)
      (⟨s.simulator, parked.erase c.id, s.clock⟩, told.toArray)
    | .ok simulator => flush ⟨simulator, parked, s.clock⟩

/-- The ticket that is taken out is the one that has been put in, so the stages come to a submission
that does nothing at all if it is refused. -/
theorem submitInStages_eq (s : Session α) (c : Command α) (ticket : Nat) :
    s.submitInStages c ticket = s.submit c ticket := by
  unfold submitInStages submit
  cases first : s.table.refusal? (α := α) c.id with
  | some e => rfl
  | none =>
    obtain ⟨-, absent⟩ := Correlation.new_of_not_refused first
    cases s.simulator.enqueue c with
    | ok t => rfl
    | error e =>
      dsimp only
      rw [Correlation.find?_insert, Correlation.erase_insert absent]
      rfl

theorem refused_iff {s : Session α} {c : Command α} :
    (s.refusal? c).isSome = true ↔
      c.id.isSub = true ∨ c.id ∈ s.table.keys ∨ c.kind.isFinite = false := by
  rw [← or_assoc, ← Correlation.refusal?_isSome_iff (α := α), ← Simulator.enqueue_eq_error_iff]
  unfold refusal?
  cases s.table.refusal? (α := α) c.id with
  | some e => simp
  | none => cases s.simulator.enqueue c <;> simp

end Session

/-! ## What is awaited -/

/-- Somebody waits for a command with this identifier: it has been taken in, and its ticket has had
no answer. -/
def Journal.Awaited (j : Journal α) (id : CommandId) : Prop :=
  ∃ (n ticket : Nat) (c : Command α), j.tickets[n]? = some ticket ∧
    j.engine.accepted[n]? = some c ∧ c.id = id ∧
    ∀ result, (ticket, result) ∉ answers j.effects

namespace Journal.Quiet

variable {j : Journal α}

/-- A ticket of an accepted command has an answer once a report is about that command. -/
theorem unanswered_iff (quiet : j.Quiet)
    (distinct : (j.refusals.map Prod.fst ++ j.tickets).Nodup) {n ticket : Nat} {c : Command α}
    (found : j.tickets[n]? = some ticket) (accepted : j.engine.accepted[n]? = some c) :
    (∀ result, (ticket, result) ∉ answers j.effects) ↔
      (⟨n, c, 0⟩ : Issue α) ∈ outstanding j.engine.accepted j.engine.emitted := by
  rw [mem_outstanding_iff (mem_issues_of_accepted accepted _) rfl]
  have answered (result : CommandResult α) :=
    quiet.tally.answer_iff_of_accepted distinct found result
  rw [quiet.reports_eq] at answered
  constructor
  · intro none e told
    exact none e.result ((answered e.result).2 ⟨_, e, told, rfl, rfl, rfl⟩)
  · intro none result given
    obtain ⟨i, e, told, entry, own, -⟩ := (answered result).1 given
    have about : i ∈ (record j.engine.accepted j.engine.emitted).map Prod.fst :=
      List.mem_map_of_mem told
    rw [map_fst_record] at about
    have origin := getElem?_of_isOwn (List.mem_of_mem_take about) (Issue.isOwn_iff.2 own)
    obtain ⟨entry', origin', part⟩ := i
    dsimp only at entry own origin
    subst entry own
    cases origin.symm.trans accepted
    exact none e told

/-- The table knows exactly what is awaited. -/
theorem mem_keys_iff_awaited (quiet : j.Quiet)
    (distinct : (j.refusals.map Prod.fst ++ j.tickets).Nodup) (id : CommandId) :
    id ∈ j.session.table.keys ↔ j.Awaited id := by
  have length := quiet.tally.length_eq
  rw [quiet.keys_perm.mem_iff]
  constructor
  · intro mem
    obtain ⟨i, waits, rfl⟩ := List.mem_map.1 mem
    obtain ⟨left, own⟩ := List.mem_filter.1 waits
    have accepted := getElem?_of_isOwn (List.mem_of_mem_drop left) own
    have known : i.entry < j.tickets.length := by
      rw [length]
      exact (List.getElem?_eq_some_iff.1 accepted).1
    have found := List.getElem?_eq_getElem known
    refine ⟨i.entry, _, i.origin, found, accepted, rfl, ?_⟩
    rw [quiet.unanswered_iff distinct found accepted]
    have part := Issue.isOwn_iff.1 own
    obtain ⟨entry, origin, _⟩ := i
    cases part
    exact left
  · rintro ⟨n, ticket, c, found, accepted, rfl, none⟩
    have left := (quiet.unanswered_iff distinct found accepted).1 none
    exact List.mem_map.2 ⟨⟨n, c, 0⟩, List.mem_filter.2 ⟨left, rfl⟩, rfl⟩

end Journal.Quiet

/-! ## Serving a submission -/

namespace Course.Sound

variable [Scalar α] {c : Course α} {command : Command α} {ticket : Nat} {rest : List (Request α)}

/-- Nobody answers a submission before it is served. -/
theorem unanswered_of_next (sound : c.Sound)
    (next : c.world.inbox.toList = .submit command ticket :: rest) (result : CommandResult α) :
    (ticket, result) ∉ answers c.journal.effects := by
  intro given
  obtain ⟨unserved, placed, -⟩ := sound.placed
  have distinct := placed.symm.nodup List.nodup_range
  rw [places, next, List.append_assoc] at distinct
  obtain ⟨-, -, apart⟩ := List.nodup_append.1 distinct
  refine apart ticket (sound.quiet.tally.origin_of_answer given) ticket ?_ rfl
  exact List.mem_append_left _ List.mem_cons_self

/-- A refusal takes the request from the inbox and answers its ticket, and that is all. -/
theorem serve_of_refused (sound : c.Sound) (running : c.world.isRunning = true)
    (next : c.world.inbox.toList = .submit command ticket :: rest) {e : ArmError α}
    (refused : c.world.session.refusal? command = some e) :
    (c.after .serve).world =
        { c.world with
          inbox := rest.toArray
          receipts := c.world.receipts.answer ticket (.error e) } ∧
      (c.after .serve).journal =
        { c.journal with
          effects := c.journal.effects ++ [.answered ticket (.error e)]
          refusals := c.journal.refusals ++ [(ticket, e)] } := by
  have step : c.world.session.step (.request (.submit command ticket)) =
      (c.world.session, #[.answered ticket (.error e)]) :=
    Session.submit_of_refusal refused ticket
  rw [after_serve running next]
  constructor
  · unfold Course.act World.act
    dsimp only
    rw [step]
    rfl
  · rw [← sound.same] at refused step
    unfold Course.act Journal.after
    dsimp only
    rw [step, Session.operations, Session.admission?, Session.rejection?, refused]
    simp

theorem serve_of_accepted (sound : c.Sound) (running : c.world.isRunning = true)
    (next : c.world.inbox.toList = .submit command ticket :: rest)
    (accepted : c.world.session.refusal? command = none) :
    (c.after .serve).journal.tickets = c.journal.tickets ++ [ticket] ∧
      (c.after .serve).journal.engine.accepted = c.journal.engine.accepted ++ [command] := by
  rw [after_serve running next]
  rw [← sound.same] at accepted
  obtain ⟨tickets, engine, -⟩ := Journal.after_of_taken accepted ticket
  obtain ⟨t, -, enqueued, -⟩ := Session.submit_of_accepted accepted ticket
  refine ⟨tickets, (congrArg History.accepted engine).trans ?_⟩
  rw [← sound.quiet.same] at enqueued
  rw [History.after, History.after, enqueued]

/-- The answer of a submission that has been taken in is a verdict on its command. -/
theorem verdict_of_accepted (sound : c.Sound) (verdicts : c.journal.engine.Verdicts)
    (taken : ticket ∈ c.journal.tickets) {e : ArmError α}
    (given : (ticket, .error e) ∈ answers c.journal.effects) : e.isVerdict = true := by
  obtain ⟨n, found⟩ := List.getElem?_of_mem taken
  have quiet := sound.quiet
  obtain ⟨i, event, about, -, -, failed⟩ :=
    (quiet.tally.answer_iff_of_accepted sound.distinct found _).1 given
  rw [quiet.reports_eq] at about
  exact verdicts event (List.of_mem_zip about).2 e failed

/-- Whoever has been answered is never answered in another way. -/
theorem answer_stays (sound : c.Sound) {result other : CommandResult α}
    (given : (ticket, result) ∈ answers c.journal.effects) (happenings : List (Happening α))
    (later : (ticket, other) ∈ answers (c.run happenings).journal.effects) : other = result := by
  have last := sound.further happenings
  have once := last.quiet.tally.answers_nodup last.distinct
  exact congrArg Prod.snd
    (List.inj_on_of_nodup_map once later (c.answers_run happenings given) rfl)

/-- What is refused and why. -/
theorem refused_iff (sound : c.Sound) :
    (c.world.session.refusal? command).isSome = true ↔
      command.id.IsNumbered ∨ c.journal.Awaited command.id ∨
        command.kind.isFinite = false := by
  rw [Session.refused_iff, CommandId.isSub_iff, ← sound.same,
    sound.quiet.mem_keys_iff_awaited sound.distinct]

end Course.Sound

/-- The books are in order, and the arm has only reported verdicts. -/
structure Course.Reliable [Scalar α] (c : Course α) : Prop where
  sound : c.Sound
  verdicts : c.journal.engine.Verdicts

namespace Course.Reliable

variable [Scalar α] {c : Course α}

theorem further (reliable : c.Reliable) (happenings : List (Happening α)) :
    (c.run happenings).Reliable where
  sound := reliable.sound.further happenings
  verdicts := @journal_run_keeps α _ (fun j => j.engine.Verdicts)
    (fun _ _ verdicts => verdicts.run _) c reliable.verdicts happenings

theorem start (m : ArmModel α) (speed maxStep : α) (reportCapacity : Nat) :
    (Course.start m speed maxStep reportCapacity).Reliable :=
  ⟨.start m speed maxStep reportCapacity, .start m speed⟩

end Course.Reliable

/-- Whatever has happened around a session: when it serves a submission, nobody has answered that
yet. It answers that the argument is invalid if and only if the identifier has the form of a
numbered command, somebody waits for a command with the same identifier, or a number is not finite.
Then it gives this one answer, for the one reason that it has, and leaves everything else as it was:
itself, the requests behind, the answers for others, the reports, the latest snapshot and the
acknowledgements; and the ticket never has another answer. Otherwise the command is taken in. -/
theorem refused_without_trace [Scalar α] (m : ArmModel α) (speed maxStep : α)
    (reportCapacity : Nat) (happenings : List (Happening α)) {command : Command α} {ticket : Nat}
    {rest : List (Request α)} :
    let c := (Course.start m speed maxStep reportCapacity).run happenings
    let s := c.world.session
    let d := c.after .serve
    c.world.isRunning = true → c.world.inbox.toList = .submit command ticket :: rest →
    (∀ result, (ticket, result) ∉ answers c.journal.effects) ∧
    s.step (.request (.submit command ticket)) = s.submitInStages command ticket ∧
    ((∃ reason, (ticket, .error (.invalidArgument reason)) ∈ answers d.journal.effects) ↔
      command.id.IsNumbered ∨ c.journal.Awaited command.id ∨ command.kind.isFinite = false) ∧
    (∀ reason, (ticket, .error (.invalidArgument reason)) ∈ answers d.journal.effects →
      s.refusal? command = some (.invalidArgument reason) ∧
      d.world =
        { c.world with
          inbox := rest.toArray
          receipts := c.world.receipts.answer ticket (.error (.invalidArgument reason)) } ∧
      (∀ other, d.world.receipts.cells[other]? =
        if other = ticket ∧ c.world.receipts.isWaiting ticket then
          some (.answered (.error (.invalidArgument reason)))
        else c.world.receipts.cells[other]?) ∧
      d.journal.engine = c.journal.engine ∧
      d.journal.effects =
        c.journal.effects ++ [.answered ticket (.error (.invalidArgument reason))] ∧
      ∀ later result, (ticket, result) ∈ answers (d.run later).journal.effects →
        result = .error (.invalidArgument reason)) ∧
    ((∀ reason, (ticket, .error (.invalidArgument reason)) ∉ answers d.journal.effects) →
      d.journal.tickets = c.journal.tickets ++ [ticket] ∧
      d.journal.engine.accepted = c.journal.engine.accepted ++ [command]) := by
  intro c s d running next
  have reliable : c.Reliable :=
    (Course.Reliable.start m speed maxStep reportCapacity).further happenings
  have sound := reliable.sound
  have served : d.Reliable := reliable.further [.serve]
  refine ⟨sound.unanswered_of_next next, (s.submitInStages_eq command ticket).symm, ?_⟩
  cases verdict : s.refusal? command with
  | none =>
    obtain ⟨tickets, accepted⟩ := sound.serve_of_accepted running next verdict
    have taken : ticket ∈ d.journal.tickets := by
      rw [tickets]
      exact List.mem_append_right _ List.mem_cons_self
    have never (reason : String) :
        (ticket, .error (.invalidArgument reason)) ∉ answers d.journal.effects := by
      intro given
      cases served.sound.verdict_of_accepted served.verdicts taken given
    refine ⟨?_, fun reason given => absurd given (never reason), fun _ => ⟨tickets, accepted⟩⟩
    rw [← sound.refused_iff, verdict]
    exact iff_of_false (fun ⟨reason, given⟩ => never reason given) Bool.false_ne_true
  | some e =>
    obtain ⟨reason, rfl⟩ := Session.invalidArgument_of_refusal verdict
    obtain ⟨world, journal⟩ := sound.serve_of_refused running next verdict
    have given : (ticket, .error (.invalidArgument reason)) ∈ answers d.journal.effects := by
      rw [journal, answers_append]
      exact List.mem_append_right _ List.mem_cons_self
    refine ⟨?_, fun reason' given' => ?_, fun none => absurd given (none reason)⟩
    · rw [← sound.refused_iff, verdict]
      exact iff_of_true ⟨reason, given⟩ rfl
    · cases served.sound.answer_stays given [] given'
      refine ⟨rfl, world, fun other => ?_, ?_, ?_, fun later result told => ?_⟩
      · rw [world]
        exact Receipts.getElem?_answer_eq _ ticket _ other
      · rw [journal]
      · rw [journal]
      · exact served.sound.answer_stays given later told

/-- The first submission of all, refused for its identifier. -/
theorem refused_without_trace_numbered :
    let command : Command Float := ⟨⟨"p:0"⟩, .home⟩
    let c : Course Float := (Course.start .standard 1 0.1 16).run [.submit command]
    c.world.isRunning = true ∧ c.world.inbox.toList = [.submit command 0] ∧
      ∃ reason, (c.after .serve).world =
        { c.world with
          inbox := #[]
          receipts := c.world.receipts.answer 0 (.error (.invalidArgument reason)) } := by
  intro command c
  have running : c.world.isRunning = true := rfl
  have next : c.world.inbox.toList = [.submit command 0] := rfl
  obtain ⟨-, -, refused, trace, -⟩ :=
    refused_without_trace .standard 1 0.1 16 [.submit command] running next
  obtain ⟨reason, given⟩ := refused.2 (.inl (CommandId.isSub_iff.1 (by decide)))
  exact ⟨running, next, reason, (trace reason given).2.1⟩

end PlanarArm
