import PlanarArm.Proofs.Script.OnBench
import PlanarArm.Proofs.Session.Ahead

/-!
# Scripts that succeed

A script goes on to its next line only after its command has been answered well. So if it reaches
its end, and has not aborted anything, its commands have been carried out, up to the points of its
lines (`script_carried_out`): a line is answered when it is replaced by its points, and nobody waits
for them. A script that ends with a line returns while the arm is still on its way, or has failed to
reach a point (`script_ahead_of_line`).
-/

namespace PlanarArm

/-! ## One statement -/

/-- What the statement has the arm do, if it runs a command. -/
def Statement.kind? : Statement → Option (CommandKind Float)
  | .run kind => some kind
  | .wire c => some c.kind
  | _ => none

theorem Statement.kinds_cons (statement : Statement) (later : List Statement) :
    (statement :: later).filterMap kind? = statement.kind?.toList ++ later.filterMap kind? := by
  rw [List.filterMap_eq_flatMap_toList, List.flatMap_cons, ← List.filterMap_eq_flatMap_toList]

/-- The arm was to do these things, and all of them have been answered well. -/
def Course.Did (c : Course Float) (kinds : List (CommandKind Float)) : Prop :=
  ∃ commands : List (Command Float), commands.map Command.kind = kinds ∧
    c.Answered commands commands.length

namespace Course.Did

variable {c d : Course Float} {kinds : List (CommandKind Float)} {outcome : Outcome}

theorem send {β : Type} {happening : Happening Float} {value : World Float → β}
    {result : Except (ArmError Float) β} (did : c.Did kinds)
    (run : Scheduled.send happening value c result d) (calm : happening.isCalm = true)
    (other : happening.isSubmission = false) : d.Did kinds := by
  obtain ⟨commands, same, answered⟩ := did
  exact ⟨commands, same, answered.send run calm other⟩

theorem submit_await {command : Command Float} {ticket : Nat} {completion : Completion}
    {e : Course Float} (did : c.Did kinds)
    (submitted : Scheduled.submit command c (.ok ticket) d)
    (awaited : Scheduled.await ticket d (.ok completion) e) :
    e.Did (kinds ++ [command.kind]) := by
  obtain ⟨commands, rfl, answered⟩ := did
  refine ⟨commands ++ [command], ?_, answered.submit_await submitted awaited⟩
  rw [List.map_append, List.map_singleton]

theorem executeRun {kind : CommandKind Float} (did : c.Did kinds)
    (run : (Statement.executeRun kind : Scheduled Float _) c (.ok outcome) d)
    (good : outcome.isFailure = false) : d.Did (kinds ++ [kind]) := by
  obtain ⟨result, between, ⟨id, ticket, submitted, rfl⟩, rest⟩ := run
  cases ticket with
  | error e => cases rest.1
  | ok ticket =>
    obtain ⟨result, after, awaited, same, rfl⟩ := rest
    cases same
    cases result with
    | error e => cases good
    | ok completion => exact did.submit_await submitted awaited

theorem executeWire {command : Command Float} (did : c.Did kinds)
    (run : (Statement.executeWire command : Scheduled Float _) c (.ok outcome) d)
    (good : outcome.isFailure = false) : d.Did (kinds ++ [command.kind]) := by
  obtain ⟨ticket, between, submitted, rest⟩ := run
  cases ticket with
  | error e =>
    obtain ⟨same, -⟩ := rest
    split at same
    · cases same
    · cases same
      cases good
  | ok ticket =>
    obtain ⟨result, after, awaited, rest⟩ := rest
    cases result with
    | error e =>
      obtain ⟨same, -⟩ := rest
      split at same
      · cases same
      · cases same
        cases good
    | ok completion =>
      obtain ⟨-, rfl⟩ := rest
      exact did.submit_await submitted awaited

/-- What a statement has the arm do has been done when it has been carried out without a failure. -/
theorem execute {statement : Statement} (did : c.Did kinds) (calm : statement.aborts = false)
    (run : (statement.execute : Scheduled Float _) c (.ok outcome) d)
    (good : outcome.isFailure = false) : d.Did (kinds ++ statement.kind?.toList) := by
  have still : kinds = kinds ++ (none : Option (CommandKind Float)).toList :=
    (List.append_nil kinds).symm
  cases statement with
  | run kind => exact did.executeRun run good
  | wire command => exact did.executeWire run good
  | speed value =>
    obtain ⟨result, between, sent, -, rfl⟩ := run
    exact still ▸ did.send sent rfl rfl
  | resetPath =>
    obtain ⟨result, between, sent, -, rfl⟩ := run
    exact still ▸ did.send sent rfl rfl
  | stop => cases calm
  | reset => cases calm
  | status =>
    obtain ⟨seen, between, ⟨turns, -⟩, -, rfl⟩ := run
    obtain ⟨commands, same, answered⟩ := did
    exact still ▸ ⟨commands, same, answered.turns turns⟩

/-- And so it is with lines that follow each other, by induction on the lines that are left. -/
theorem runLines {steps line : Nat} {lines : List String} {outcomes : List Outcome} {n : Nat}
    (did : c.Did kinds) (calm : ∀ s ∈ Script.statementsOf steps lines, s.aborts = false)
    (run : (Script.runLines steps line lines : Scheduled Float Script.Report) c
      (outcomes, .ok n) d) :
    d.Did (kinds ++ (Script.statementsOf steps lines).filterMap Statement.kind?) := by
  induction lines generalizing c kinds line outcomes n with
  | nil =>
    obtain ⟨-, rfl⟩ := run
    rw [Script.statementsOf, List.filterMap_nil, List.filterMap_nil, List.append_nil]
    exact did
  | cons text rest ih =>
    rw [Script.runLines] at run
    rw [Script.statementsOf, List.filterMap_cons] at calm ⊢
    cases parsed : Statement.parse steps text with
    | error e =>
      rw [parsed] at run
      cases run.1
    | ok found =>
      rw [parsed] at run calm
      cases found with
      | none => exact ih did calm run
      | some statement =>
        obtain ⟨result, between, executed, later⟩ := run
        cases result with
        | error e => cases later.1
        | ok outcome =>
          dsimp only at later
          split at later
          · cases later.1
          · next good =>
            obtain ⟨report, after, further, same, rfl⟩ := later
            have first := did.execute (calm statement List.mem_cons_self) executed
              (Bool.eq_false_iff.2 good)
            obtain ⟨events, ended⟩ := report
            cases ended with
            | error fault => cases same
            | ok k =>
              rw [Statement.kinds_cons, ← List.append_assoc]
              exact ih first (fun s mem => calm s (.tail _ mem)) further

end Course.Did

/-! ## A script of one line -/

theorem parse_line : ∃ target : Point Float,
    Statement.parse standardLineSteps "line_to 5 0 2" = .ok (some (.run (.lineTo target 2))) ∧
      (CommandKind.lineTo target 2).check = .ok () := by
  refine ⟨⟨5.0, 0.0⟩, rfl, ?_⟩
  have finite : (CommandKind.lineTo ⟨5.0, 0.0⟩ 2 : CommandKind Float).fault? = none := by
    decide +kernel
  rw [CommandKind.check, finite]

theorem calm_line :
    ∀ s ∈ Script.statements standardLineSteps "line_to 5 0 2", s.aborts = false := by
  obtain ⟨target, parsed, -⟩ := parse_line
  have lines : Text.lines "line_to 5 0 2" = ["line_to 5 0 2"] := rfl
  rw [Script.statements, lines, Script.statementsOf, List.filterMap_cons, parsed]
  intro s mem
  cases List.mem_singleton.1 mem
  rfl

/-- A script of a single statement, carried out without a failure. -/
theorem run_one {steps : Nat} {source text : String} {statement : Statement} {outcome : Outcome}
    {c d : Course Float} (lines : Text.lines source = [text])
    (parsed : Statement.parse steps text = .ok (some statement))
    (executed : (statement.execute : Scheduled Float _) c (.ok outcome) d)
    (good : outcome.isFailure = false) :
    (Script.run steps source : Scheduled Float Script.Report) c ([outcome], .ok 1) d := by
  rw [Script.run, lines, Script.runLines, parsed]
  refine ⟨.ok outcome, d, executed, ?_⟩
  dsimp only
  rw [good, if_neg Bool.false_ne_true, Script.runLines]
  refine ⟨([], .ok 0), d, ⟨rfl, rfl⟩, ?_, rfl⟩
  rfl

/-- A script that consists of a line can be finished before the arm is on its way along it. -/
theorem exists_run_line : ∃ c : Course Float,
    (Script.run standardLineSteps "line_to 5 0 2" : Scheduled Float Script.Report)
        (.start .standard 1 0.1 16) ([.completed ⟨⟨"a"⟩, .ok .expanded⟩], .ok 1) c ∧
      c.world.isRunning = true ∧ (c.world.session.simulator.pendingIds ≠ [] ∨
        ∃ e ∈ reports c.journal.effects, e.isOk = false) := by
  obtain ⟨target, parsed, valid⟩ := parse_line
  have plain : CommandId.isSub ⟨"a"⟩ = false := by decide
  obtain ⟨going, read, ahead⟩ := @Course.line_ahead Float _ .standard 1 0.1 16
    ⟨⟨"a"⟩, .lineTo target 2⟩ target 2 plain valid rfl
  let fresh : Course Float := .start .standard 1 0.1 16
  let sent := fresh.after (.submit ⟨⟨"a"⟩, .lineTo target 2⟩)
  have submitted : (Agent.submit (.lineTo target 2) : Scheduled Float _) fresh
      (.ok (⟨"a"⟩, 0)) sent := by
    refine ⟨⟨"a"⟩, .ok 0, ⟨fresh, ⟨[], nofun, rfl⟩, ?_⟩, rfl⟩
    have running : fresh.world.isRunning = true := rfl
    rw [if_pos running]
    exact ⟨rfl, [], nofun, rfl⟩
  let finished := (sent.after .serve).after (.take 0)
  have awaited : (Agent.await 0 : Scheduled Float _) sent (.ok .expanded) finished :=
    ⟨sent.after .serve, ⟨[.serve], by simp [Happening.isTurn], rfl⟩, read, rfl⟩
  have executed : (Statement.execute (.run (.lineTo target 2)) : Scheduled Float _) fresh
      (.ok (.completed ⟨⟨"a"⟩, .ok .expanded⟩)) finished :=
    ⟨_, sent, submitted, _, finished, awaited, rfl, rfl⟩
  have left : finished.world.isRunning = true ∧
      (finished.world.session.simulator.pendingIds ≠ [] ∨
        ∃ e ∈ reports finished.journal.effects, e.isOk = false) := by
    obtain ⟨session, running, journal⟩ := Course.session_of_take (sent.after .serve) 0
    rw [session, running, journal]
    exact ⟨going, ahead⟩
  clear_value finished
  have lines : Text.lines "line_to 5 0 2" = ["line_to 5 0 2"] := rfl
  have good : (Outcome.completed ⟨⟨"a"⟩, .ok .expanded⟩).isFailure = false := rfl
  have run := @run_one standardLineSteps "line_to 5 0 2" "line_to 5 0 2" _ _ fresh finished lines
    parsed executed good
  exact ⟨finished, run, left⟩

/-! ## Whole scripts -/

/-- A script that neither stops nor resets, run by the only sender of a new session on any schedule.
If it succeeds, its commands have been taken in, in order, and it has been broadcast of each one
that it ended well. A failure that has been broadcast is that of a point of a line. What still runs
or waits are points of the last command, and this is a line. So without lines every report is good,
and nothing runs or waits. And what the script does on a bench, whatever the pace of the bench, it
does on one of these schedules. -/
theorem script_carried_out (m : ArmModel Float) (speed maxStep : Float) (reportCapacity steps : Nat)
    (source : String) (calm : ∀ s ∈ Script.statements steps source, s.aborts = false)
    {c d : Course Float} (fresh : (Course.start m speed maxStep reportCapacity).Turns c)
    {outcomes : List Outcome} {n : Nat}
    (run : (Script.run steps source : Scheduled Float Script.Report) c (outcomes, .ok n) d) :
    d.submitted.map Command.kind =
        (Script.statements steps source).filterMap Statement.kind? ∧
      d.CarriedOut ∧
      ((∀ c ∈ d.submitted, ∀ target points, c.kind ≠ .lineTo target points) →
        (∀ e ∈ reports d.journal.effects, e.isOk = true) ∧
          d.world.session.simulator.pendingIds = []) ∧
      ∀ (inboxCapacity period budget : Nat) (supply : Nat → CommandId),
        let b := Bench.create (.withSpeed m speed) maxStep reportCapacity inboxCapacity period
          budget supply
        let out := (Script.run steps source : StateM (Bench Float) Script.Report) b
        ∃ c d : Course Float, (Course.start m speed maxStep reportCapacity).Turns c ∧
          (Script.run steps source : Scheduled Float Script.Report) c out.1 d ∧
          d.world = out.2.world := by
  have idle : c.Did [] :=
    ⟨[], rfl, (Course.Answered.start m speed maxStep reportCapacity).turns fresh⟩
  obtain ⟨commands, same, answered⟩ := idle.runLines calm run
  have done := answered.carriedOut
  refine ⟨?_, done, done.of_no_line, fun inboxCapacity period budget supply => ?_⟩
  · rw [answered.submitted, same, List.nil_append]
    rfl
  · exact Script.scheduled_of_bench m speed maxStep reportCapacity inboxCapacity period budget steps
      supply source calm

/-- The script returns, and yet a point of its line is still to come or has failed. -/
theorem script_ahead_of_line :
    ∃ (outcomes : List Outcome) (n : Nat) (c : Course Float),
      (∀ s ∈ Script.statements standardLineSteps "line_to 5 0 2", s.aborts = false) ∧
      (Script.run standardLineSteps "line_to 5 0 2" : Scheduled Float Script.Report)
        (.start .standard 1 0.1 16) (outcomes, .ok n) c ∧
      c.world.isRunning = true ∧
      ¬((∀ e ∈ reports c.journal.effects, e.isOk = true) ∧
        c.world.session.simulator.pendingIds = []) := by
  obtain ⟨c, run, going, ahead⟩ := exists_run_line
  refine ⟨_, _, c, calm_line, run, going, ?_⟩
  rintro ⟨good, idle⟩
  rcases ahead with pending | ⟨e, mem, failed⟩
  · exact pending idle
  · rw [good e mem] at failed
    cases failed

theorem script_carried_out_line :
    ∃ (outcomes : List Outcome) (n : Nat) (c : Course Float),
      (∀ s ∈ Script.statements standardLineSteps "line_to 5 0 2", s.aborts = false) ∧
      (Script.run standardLineSteps "line_to 5 0 2" : Scheduled Float Script.Report)
        (.start .standard 1 0.1 16) (outcomes, .ok n) c ∧
      c.submitted.map Command.kind =
        (Script.statements standardLineSteps "line_to 5 0 2").filterMap Statement.kind? ∧
      c.CarriedOut := by
  obtain ⟨c, run, -⟩ := exists_run_line
  have done := script_carried_out .standard 1 0.1 16 standardLineSteps "line_to 5 0 2" calm_line
    (.refl (.start .standard 1 0.1 16)) run
  exact ⟨_, _, c, calm_line, run, done.1, done.2.1⟩

end PlanarArm
