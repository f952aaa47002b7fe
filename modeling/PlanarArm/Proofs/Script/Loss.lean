import PlanarArm.Proofs.Session.Refusal
import PlanarArm.Proofs.Session.Scheduled
import PlanarArm.Script.Outcome

/-!
# Statements that lose their session

A session can be gone before a statement sends its request, while the request waits, or while the
command runs. Whoever holds the ticket of a command then reads a failure of the channel, and reads
one in no other case (`Course.Sound.gone_of_reading`). A message hands that failure on as such. A
command that comes without an identifier does not look at what it reads, and so the loss of its
session is reported as if the command had failed (`loss_reported_as_failure`); this is the only
difference between the two, and the only way in which a loss is taken for anything else
(`session_losses`).
-/

namespace PlanarArm

variable {α : Type}

/-! ## What the holder of a ticket reads -/

namespace Course

variable [Scalar α] {c d : Course α} {ticket : Nat}

theorem isHeld_act (held : c.world.receipts.IsHeld ticket) (action : Action α) :
    (c.act action).world.receipts.IsHeld ticket := by
  have receipts := (World.act_eq c.world action).2.2.2
  unfold Course.act
  dsimp only
  rw [receipts]
  exact held.answerAll _

theorem after_submit (going : c.world.isRunning = true) (command : Command α) :
    (c.after (.submit command)).world.isRunning = true ∧
      (c.after (.submit command)).world.receipts.cells[c.world.receipts.cells.size]? =
        some .waiting := by
  rw [after, if_pos going]
  exact ⟨going, (Receipts.getElem?_issue _ _).trans (if_pos rfl)⟩

/-- No turn of the session takes a ticket away from its holder. -/
theorem isHeld_after (held : c.world.receipts.IsHeld ticket) {happening : Happening α}
    (turn : happening.isTurn = true) : (c.after happening).world.receipts.IsHeld ticket := by
  unfold after
  split
  · cases happening with
    | serve =>
      rw [proceed, serve]
      split
      · exact held
      · next r rest inbox =>
        exact isHeld_act (c := ⟨{ c.world with inbox := rest.toArray }, c.journal, c.submitted⟩)
          held _
    | frame now => exact isHeld_act held _
    | kill => exact held.abandon
    | _ => cases turn
  · cases happening <;> first | exact held | cases turn

theorem Turns.isHeld (turns : c.Turns d) (held : c.world.receipts.IsHeld ticket) :
    d.world.receipts.IsHeld ticket := by
  obtain ⟨happenings, own, rfl⟩ := turns
  induction happenings generalizing c with
  | nil => exact held
  | cons happening rest ih =>
    exact ih (isHeld_after held (own happening List.mem_cons_self)) fun h mem =>
      own h (.tail happening mem)

/-- A session that has gone takes no turn. -/
theorem Turns.eq_of_gone (turns : c.Turns d) (gone : c.world.isRunning = false) : d = c := by
  obtain ⟨happenings, own, rfl⟩ := turns
  induction happenings with
  | nil => rfl
  | cons happening rest ih =>
    have still : c.after happening = c := by
      have turn := own happening List.mem_cons_self
      rw [after, if_neg (Bool.eq_false_iff.1 gone)]
      cases happening <;> first | rfl | cases turn
    have later := ih fun h mem => own h (.tail happening mem)
    rw [run, List.foldl_cons, still]
    exact later

namespace Reliable

theorem turns (reliable : c.Reliable) (turns : c.Turns d) : d.Reliable := by
  obtain ⟨happenings, -, rfl⟩ := turns
  exact reliable.further happenings

/-- No session answers with a failure of the channel. -/
theorem not_channel (reliable : c.Reliable) {e : ArmError α}
    (given : (ticket, .error e) ∈ answers c.journal.effects) : e.isChannel = false := by
  obtain ⟨sound, verdicts⟩ := reliable
  rcases List.mem_append.1 (sound.quiet.tally.origin_of_answer given) with refused | taken
  · obtain ⟨⟨_, other⟩, mem, rfl⟩ := List.mem_map.1 refused
    have same := (sound.quiet.tally.answer_iff_of_refused sound.distinct mem _).1 given
    obtain ⟨reason, invalid⟩ := sound.refused _ mem
    cases same
    cases invalid
    rfl
  · have verdict := sound.verdict_of_accepted verdicts taken given
    cases e <;> first | rfl | cases verdict

/-- So whoever reads one has lost the session. -/
theorem gone_of_reading (reliable : c.Reliable) (held : c.world.receipts.IsHeld ticket)
    {e : ArmError α} (read : c.world.receipts.reading? ticket = some (.error e))
    (channel : e.isChannel = true) : e = sessionGone ∧ c.world.isRunning = false := by
  obtain ⟨receipt, found, fresh, kept⟩ := held
  unfold Receipts.reading? at read
  rw [found] at read
  cases receipt with
  | waiting => cases read
  | answered result =>
    cases read
    have given := reliable.sound.follows.answered ticket _ found
    rw [reliable.not_channel given] at channel
    cases channel
  | taken => exact absurd rfl fresh
  | dropped => exact absurd rfl kept
  | lost =>
    cases read
    refine ⟨rfl, Bool.eq_false_iff.2 fun going => ?_⟩
    exact reliable.sound.going (of_decide_eq_true going) ticket found

end Reliable

end Course

/-! ## Calls that lose the session -/

namespace Scheduled

variable [Scalar α] {β : Type} {c d : Course α} {e : ArmError α}

/-- The session is gone before the sender has sent anything. -/
def Unsent (c : Course α) (e : ArmError α) (d : Course α) : Prop :=
  c.Turns d ∧ d.world.isRunning = false ∧ e = sessionGone

/-- The sender submits a command and reads its result in the end. -/
def Completes (command : Command α) (c : Course α) (result : CommandResult α)
    (d : Course α) : Prop :=
  ∃ ticket b, submit command c (.ok ticket) b ∧ await ticket b result d

theorem send_error_iff {happening : Happening α} {value : World α → β} :
    send happening value c (.error e) d ↔ Unsent c e d := by
  constructor
  · rintro ⟨b, turns, sent⟩
    split at sent
    · cases sent.1
    · next gone =>
      obtain ⟨same, rfl⟩ := sent
      cases same
      exact ⟨turns, Bool.eq_false_iff.2 gone, rfl⟩
  · rintro ⟨turns, gone, rfl⟩
    refine ⟨d, turns, ?_⟩
    rw [if_neg (Bool.eq_false_iff.1 gone)]
    exact ⟨rfl, rfl⟩

theorem submit_error_iff {command : Command α} :
    submit command c (.error e) d ↔ Unsent c e d :=
  send_error_iff

theorem send_iff_of_gone (gone : c.world.isRunning = false) {happening : Happening α}
    {value : World α → β} {result : Except (ArmError α) β} :
    send happening value c result d ↔ result = .error sessionGone ∧ d = c := by
  constructor
  · rintro ⟨b, turns, sent⟩
    rw [turns.eq_of_gone gone, gone, if_neg Bool.false_ne_true] at sent
    exact sent
  · rintro ⟨rfl, rfl⟩
    exact send_error_iff.2 ⟨.refl d, gone, rfl⟩

theorem sendAcknowledged_iff_of_gone (gone : c.world.isRunning = false) {happening : Happening α}
    {result : Except (ArmError α) Nat} :
    sendAcknowledged happening c result d ↔ result = .error sessionGone ∧ d = c := by
  constructor
  · rintro ⟨ack, b, sent, rest⟩
    obtain ⟨rfl, rfl⟩ := (send_iff_of_gone gone).1 sent
    exact rest
  · rintro ⟨rfl, rfl⟩
    exact ⟨_, d, (send_iff_of_gone gone).2 ⟨rfl, rfl⟩, rfl, rfl⟩

theorem sendAcknowledged_error {happening : Happening α}
    (run : sendAcknowledged happening c (.error e) d) :
    e = sessionGone ∧ d.world.isRunning = false := by
  obtain ⟨result, b, sent, rest⟩ := run
  cases result with
  | error first =>
    obtain ⟨same, rfl⟩ := rest
    cases same
    obtain ⟨-, gone, rfl⟩ := send_error_iff.1 sent
    exact ⟨rfl, gone⟩
  | ok ack =>
    obtain ⟨-, ⟨aborted, -, same⟩ | ⟨gone, same⟩⟩ := rest
    · cases same
    · cases same
      exact ⟨rfl, gone⟩

/-- A command completes with a failure of the channel only if the session is gone. -/
theorem Completes.gone {command : Command α} (completes : Completes command c (.error e) d)
    (reliable : c.Reliable) (channel : e.isChannel = true) :
    e = sessionGone ∧ d.world.isRunning = false := by
  obtain ⟨ticket, b, ⟨s, first, sent⟩, r, last, read, rfl⟩ := completes
  split at sent
  · next going =>
    obtain ⟨handed, turns⟩ := sent
    cases handed
    have submitted : (s.after (.submit command)).Reliable := (reliable.turns first).further [_]
    have held := Receipts.isHeld_of_waiting (Course.after_submit going command).2
    have whole := turns.trans last
    have lost := (submitted.turns whole).gone_of_reading (whole.isHeld held) read channel
    rw [← (r.session_of_take s.world.receipts.cells.size).2.1] at lost
    exact lost
  · cases sent.1

end Scheduled

/-! ## Statements -/

namespace Statement

open Scheduled

variable {c d : Course Float} {kind : CommandKind Float} {command : Command Float}
  {id : CommandId} {result : CommandResult Float} {e : ArmError Float}

theorem run_completed_iff :
    (executeRun kind : Scheduled Float _) c (.ok (.completed ⟨id, result⟩)) d ↔
      Completes ⟨id, kind⟩ c result d := by
  constructor
  · rintro ⟨handed, b, ⟨own, ticket, submitted, rfl⟩, rest⟩
    cases ticket with
    | error e => cases rest.1
    | ok ticket =>
      obtain ⟨read, d', awaited, same, rfl⟩ := rest
      cases same
      exact ⟨ticket, b, submitted, awaited⟩
  · rintro ⟨ticket, b, submitted, awaited⟩
    exact ⟨.ok (id, ticket), b, ⟨id, .ok ticket, submitted, rfl⟩, result, d, awaited, rfl, rfl⟩

theorem run_error_iff :
    (executeRun kind : Scheduled Float _) c (.error e) d ↔ Unsent c e d := by
  constructor
  · rintro ⟨handed, b, ⟨own, ticket, submitted, rfl⟩, rest⟩
    cases ticket with
    | error first =>
      obtain ⟨same, rfl⟩ := rest
      cases same
      exact submit_error_iff.1 submitted
    | ok ticket =>
      obtain ⟨read, d', -, same, -⟩ := rest
      cases same
  · intro unsent
    exact ⟨.error e, d, ⟨⟨"a"⟩, .error e, submit_error_iff.2 unsent, rfl⟩, rfl, rfl⟩

/-- A message completes with whatever its command does, unless that is a failure of the channel. -/
theorem wire_completed_iff :
    (executeWire command : Scheduled Float _) c (.ok (.completed ⟨id, result⟩)) d ↔
      id = command.id ∧ Completes command c result d ∧
        ∀ e, result = .error e → e.isChannel = false := by
  constructor
  · rintro ⟨ticket, b, submitted, rest⟩
    cases ticket with
    | error e =>
      obtain ⟨same, -⟩ := rest
      obtain ⟨-, -, rfl⟩ := submit_error_iff.1 submitted
      cases same
    | ok ticket =>
      obtain ⟨read, d', awaited, rest⟩ := rest
      cases read with
      | error e =>
        obtain ⟨same, rfl⟩ := rest
        split at same
        · cases same
        · next other =>
          cases same
          refine ⟨rfl, ⟨ticket, b, submitted, awaited⟩, fun e same => ?_⟩
          cases same
          exact Bool.eq_false_iff.2 other
      | ok completion =>
        obtain ⟨same, rfl⟩ := rest
        cases same
        exact ⟨rfl, ⟨ticket, b, submitted, awaited⟩, nofun⟩
  · rintro ⟨rfl, ⟨ticket, b, submitted, awaited⟩, plain⟩
    refine ⟨.ok ticket, b, submitted, result, d, awaited, ?_⟩
    cases result with
    | error e =>
      refine ⟨?_, rfl⟩
      rw [plain e rfl, if_neg Bool.false_ne_true]
    | ok completion => exact ⟨rfl, rfl⟩

theorem wire_error_iff :
    (executeWire command : Scheduled Float _) c (.error e) d ↔
      Unsent c e d ∨ Completes command c (.error e) d ∧ e.isChannel = true := by
  constructor
  · rintro ⟨ticket, b, submitted, rest⟩
    cases ticket with
    | error first =>
      have unsent := submit_error_iff.1 submitted
      obtain ⟨same, rfl⟩ := rest
      split at same
      · cases same
        exact .inl unsent
      · cases same
    | ok ticket =>
      obtain ⟨read, d', awaited, rest⟩ := rest
      cases read with
      | error first =>
        obtain ⟨same, rfl⟩ := rest
        split at same
        · next channel =>
          cases same
          exact .inr ⟨⟨ticket, b, submitted, awaited⟩, channel⟩
        · cases same
      | ok completion => cases rest.1
  · rintro (⟨turns, gone, rfl⟩ | ⟨⟨ticket, b, submitted, awaited⟩, channel⟩)
    · exact ⟨.error sessionGone, d, submit_error_iff.2 ⟨turns, gone, rfl⟩, rfl, rfl⟩
    · refine ⟨.ok ticket, b, submitted, .error e, d, awaited, ?_, rfl⟩
      rw [channel, if_pos rfl]

/-- Whether the outcome is that of a command. -/
def isCompletion : Outcome → Bool
  | .completed _ => true
  | _ => false

/-- A statement runs a command, or it fails because its session has gone, or nothing in its outcome
tells of a command. -/
theorem execute_cases {statement : Statement} {result : Except (ArmError Float) Outcome}
    (run : (statement.execute : Scheduled Float _) c result d) :
    (∃ kind, statement = .run kind ∧ (executeRun kind : Scheduled Float _) c result d) ∨
      (∃ command, statement = .wire command ∧
        (executeWire command : Scheduled Float _) c result d) ∨
      (result = .error sessionGone ∧ d.world.isRunning = false) ∨
      ∃ outcome, result = .ok outcome ∧ isCompletion outcome = false := by
  have mapped {β : Type} {f : β → Outcome} {r : Except (ArmError Float) β}
      (same : result = r.map f) (plain : ∀ x, isCompletion (f x) = false)
      (lost : ∀ e, r = .error e → e = sessionGone ∧ d.world.isRunning = false) :
      (result = .error sessionGone ∧ d.world.isRunning = false) ∨
        ∃ outcome, result = .ok outcome ∧ isCompletion outcome = false := by
    cases r with
    | error e =>
      obtain ⟨rfl, gone⟩ := lost e rfl
      exact .inl ⟨same, gone⟩
    | ok x => exact .inr ⟨f x, same, plain x⟩
  have sent {β : Type} {happening : Happening Float} {value : World Float → β}
      {r : Except (ArmError Float) β} (run : Scheduled.send happening value c r d)
      (e : ArmError Float) (failed : r = .error e) : e = sessionGone ∧ d.world.isRunning = false := by
    subst failed
    obtain ⟨-, gone, same⟩ := send_error_iff.1 run
    exact ⟨same, gone⟩
  have acknowledged {happening : Happening Float} {r : Except (ArmError Float) Nat}
      (run : Scheduled.sendAcknowledged happening c r d) (e : ArmError Float)
      (failed : r = .error e) : e = sessionGone ∧ d.world.isRunning = false := by
    subst failed
    exact sendAcknowledged_error run
  cases statement with
  | run kind => exact .inl ⟨kind, rfl, run⟩
  | wire command => exact .inr (.inl ⟨command, rfl, run⟩)
  | speed value =>
    obtain ⟨r, b, first, same, rfl⟩ := run
    exact .inr (.inr (mapped same (fun _ => rfl) (sent first)))
  | resetPath =>
    obtain ⟨r, b, first, same, rfl⟩ := run
    exact .inr (.inr (mapped same (fun _ => rfl) (sent first)))
  | stop =>
    obtain ⟨r, b, first, same, rfl⟩ := run
    exact .inr (.inr (mapped same (fun _ => rfl) (acknowledged first)))
  | reset =>
    obtain ⟨r, b, first, same, rfl⟩ := run
    exact .inr (.inr (mapped same (fun _ => rfl) (acknowledged first)))
  | status =>
    obtain ⟨seen, b, -, same, rfl⟩ := run
    exact .inr (.inr (.inr ⟨_, same, rfl⟩))

/-- A statement that fails has lost its session. -/
theorem execute_error {statement : Statement}
    (run : (statement.execute : Scheduled Float _) c (.error e) d) (reliable : c.Reliable) :
    e = sessionGone ∧ d.world.isRunning = false := by
  rcases execute_cases run with ⟨kind, -, run⟩ | ⟨command, -, run⟩ | ⟨same, gone⟩ | ⟨_, same, -⟩
  · obtain ⟨-, gone, same⟩ := run_error_iff.1 run
    exact ⟨same, gone⟩
  · rcases wire_error_iff.1 run with ⟨-, gone, same⟩ | ⟨completes, channel⟩
    · exact ⟨same, gone⟩
    · exact completes.gone reliable channel
  · exact ⟨Except.error.inj same, gone⟩
  · cases same

/-- Only a command without an identifier takes a failure of the channel for its result. -/
theorem run_of_channel {statement : Statement}
    (run : (statement.execute : Scheduled Float _) c (.ok (.completed ⟨id, .error e⟩)) d)
    (channel : e.isChannel = true) (reliable : c.Reliable) :
    (∃ kind, statement = .run kind) ∧ e = sessionGone ∧ d.world.isRunning = false := by
  rcases execute_cases run with
    ⟨kind, own, run⟩ | ⟨command, -, run⟩ | ⟨same, -⟩ | ⟨outcome, same, plain⟩
  · exact ⟨⟨kind, own⟩, (run_completed_iff.1 run).gone reliable channel⟩
  · obtain ⟨-, -, other⟩ := wire_completed_iff.1 run
    rw [other e rfl] at channel
    cases channel
  · cases same
  · cases same
    cases plain

/-- If the session has gone, a statement says so and that is all, unless it only asks for the latest
snapshot. -/
theorem execute_of_gone {statement : Statement} (gone : c.world.isRunning = false)
    (asks : statement ≠ .status) (result : Except (ArmError Float) Outcome) :
    (statement.execute : Scheduled Float _) c result d ↔
      result = .error sessionGone ∧ d = c := by
  have mapped {β : Type} {f : β → Outcome} {x : Scheduled Float (Except (ArmError Float) β)}
      (only : ∀ r b, x c r b ↔ r = .error sessionGone ∧ b = c) :
      (∃ r b, x c r b ∧ result = r.map f ∧ d = b) ↔ result = .error sessionGone ∧ d = c := by
    constructor
    · rintro ⟨r, b, first, rfl, rfl⟩
      obtain ⟨rfl, rfl⟩ := (only r d).1 first
      exact ⟨rfl, rfl⟩
    · rintro ⟨rfl, rfl⟩
      exact ⟨_, d, (only _ d).2 ⟨rfl, rfl⟩, rfl, rfl⟩
  cases statement with
  | run kind =>
    constructor
    · rintro ⟨handed, b, ⟨own, ticket, submitted, rfl⟩, rest⟩
      obtain ⟨rfl, rfl⟩ := (send_iff_of_gone gone).1 submitted
      exact rest
    · rintro ⟨rfl, rfl⟩
      exact run_error_iff.2 ⟨.refl d, gone, rfl⟩
  | wire command =>
    constructor
    · rintro ⟨ticket, b, submitted, rest⟩
      have submitted : Scheduled.submit command c ticket b := submitted
      obtain ⟨rfl, rfl⟩ := (send_iff_of_gone gone).1 submitted
      exact rest
    · rintro ⟨rfl, rfl⟩
      exact wire_error_iff.2 (.inl ⟨.refl d, gone, rfl⟩)
  | speed value => exact mapped fun r b => send_iff_of_gone gone
  | resetPath => exact mapped fun r b => send_iff_of_gone gone
  | stop => exact mapped fun r b => sendAcknowledged_iff_of_gone gone
  | reset => exact mapped fun r b => sendAcknowledged_iff_of_gone gone
  | status => exact absurd rfl asks

/-- When a session is killed before it serves a command, one without an identifier is said to have
completed, and a message fails. -/
theorem execute_of_kill (going : c.world.isRunning = true) (id : CommandId)
    (kind : CommandKind Float) :
    ∃ d : Course Float, d.world.isRunning = false ∧
      (execute (.run kind) : Scheduled Float _) c (.ok (.completed ⟨id, .error sessionGone⟩)) d ∧
      (execute (.wire ⟨id, kind⟩) : Scheduled Float _) c (.error sessionGone) d := by
  let ticket := c.world.receipts.cells.size
  let sent := c.after (.submit ⟨id, kind⟩)
  obtain ⟨still, waits⟩ := Course.after_submit going ⟨id, kind⟩
  have submitted : Scheduled.submit ⟨id, kind⟩ c (.ok ticket) sent := by
    refine ⟨c, .refl c, ?_⟩
    rw [if_pos going]
    exact ⟨rfl, .refl sent⟩
  let killed := sent.after .kill
  have world : killed.world = sent.world.abort := by
    change (sent.after .kill).world = _
    rw [Course.after, if_pos still, Course.proceed]
  have lost : killed.world.receipts.reading? ticket = some (.error sessionGone) := by
    rw [world]
    exact Receipts.reading?_abandon (Receipts.reading?_eq_none.2 waits)
  have completes : Completes ⟨id, kind⟩ c (.error sessionGone) (killed.after (.take ticket)) :=
    ⟨ticket, sent, submitted, killed, ⟨[.kill], by simp [Happening.isTurn], rfl⟩, lost, rfl⟩
  refine ⟨killed.after (.take ticket), ?_, run_completed_iff.2 completes,
    wire_error_iff.2 (.inr ⟨completes, rfl⟩)⟩
  rw [(killed.session_of_take ticket).2.1, world]
  rfl

end Statement

/-- Whatever has happened around a session before a statement is carried out on it, at whichever
moment it goes: a statement fails only with the failure of the channel, and only if the session has
gone. If it has gone before, every statement that asks it for anything fails so. A completion that
carries a failure of the channel is that of a command without an identifier which has lost its
session; a message fails instead, and otherwise the two complete alike. Such a loss can befall every
command as long as the session runs. -/
theorem session_losses (m : ArmModel Float) (speed maxStep : Float) (reportCapacity : Nat)
    (happenings : List (Happening Float)) :
    let c := (Course.start m speed maxStep reportCapacity).run happenings
    let carriesOut (statement : Statement) (result : Except (ArmError Float) Outcome)
        (d : Course Float) : Prop := (statement.execute : Scheduled Float _) c result d
    (∀ statement e d, carriesOut statement (.error e) d →
      e = sessionGone ∧ d.world.isRunning = false) ∧
    (c.world.isRunning = false → ∀ statement ≠ .status, ∀ result d,
      carriesOut statement result d ↔ result = .error sessionGone ∧ d = c) ∧
    (∀ statement id e d, carriesOut statement (.ok (.completed ⟨id, .error e⟩)) d →
      e.isChannel = true →
      (∃ kind, statement = .run kind) ∧ e = sessionGone ∧ d.world.isRunning = false) ∧
    (∀ id kind d,
      (∀ result, carriesOut (.wire ⟨id, kind⟩) (.ok (.completed ⟨id, result⟩)) d ↔
        carriesOut (.run kind) (.ok (.completed ⟨id, result⟩)) d ∧
          ∀ e, result = .error e → e.isChannel = false) ∧
      ∀ e, carriesOut (.wire ⟨id, kind⟩) (.error e) d ↔
        carriesOut (.run kind) (.error e) d ∨
          carriesOut (.run kind) (.ok (.completed ⟨id, .error e⟩)) d ∧ e.isChannel = true) ∧
    (c.world.isRunning = true → ∀ id kind, ∃ d : Course Float, d.world.isRunning = false ∧
      carriesOut (.run kind) (.ok (.completed ⟨id, .error sessionGone⟩)) d ∧
      carriesOut (.wire ⟨id, kind⟩) (.error sessionGone) d) := by
  intro c carriesOut
  have reliable : c.Reliable :=
    (Course.Reliable.start m speed maxStep reportCapacity).further happenings
  refine ⟨fun statement e d run => Statement.execute_error run reliable,
    fun gone statement asks result d => Statement.execute_of_gone gone asks result,
    fun statement id e d run channel => Statement.run_of_channel run channel reliable,
    fun id kind d => ⟨fun result => ?_, fun e => ?_⟩,
    fun going id kind => Statement.execute_of_kill going id kind⟩
  · have wire := @Statement.wire_completed_iff c d ⟨id, kind⟩ id result
    have run := @Statement.run_completed_iff c d kind id result
    exact wire.trans ⟨fun ⟨_, rest⟩ => ⟨run.2 rest.1, rest.2⟩,
      fun rest => ⟨rfl, run.1 rest.1, rest.2⟩⟩
  · have wire := @Statement.wire_error_iff c d ⟨id, kind⟩ e
    have failed := @Statement.run_error_iff c d kind e
    have run := @Statement.run_completed_iff c d kind id (.error e)
    exact wire.trans (or_congr failed.symm (and_congr_left' run.symm))

/-- The first command that is given to a new session, which is killed before it serves that. -/
theorem loss_reported_as_failure :
    ∃ c d : Course Float, c = .start .standard 1 0.1 16 ∧ d.world.isRunning = false ∧
      (Statement.execute (.run .home) : Scheduled Float _) c
        (.ok (.completed ⟨⟨"a"⟩, .error sessionGone⟩)) d ∧
      (Statement.execute (.wire ⟨⟨"a"⟩, .home⟩) : Scheduled Float _) c (.error sessionGone) d := by
  have going : (Course.start (α := Float) .standard 1 0.1 16).world.isRunning = true := rfl
  obtain ⟨d, gone, run, wire⟩ := Statement.execute_of_kill going ⟨"a"⟩ .home
  exact ⟨_, d, rfl, gone, run, wire⟩

end PlanarArm
