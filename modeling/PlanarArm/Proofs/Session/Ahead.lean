import PlanarArm.Proofs.Session.Once
import PlanarArm.Proofs.Simulator.Waypoints

/-!
# Lines are answered ahead of their points

A line that comes to an idle arm is answered when it is replaced by its points. By then the first of
them runs, or one has failed (`Course.line_ahead`).
-/

namespace PlanarArm

variable {α : Type}

/-! ## The simulator -/

section

variable [Scalar α]

/-- A point that is taken up runs, or it is reported to have failed. -/
theorem Simulator.startNext_of_point {s : Simulator α} {c : Command α} {rest : CommandQueue α}
    {p : Point α} (idle : s.running = none) (next : s.queue.pop? = some (c, rest))
    (point : c.kind = .moveTo p) :
    s.startNext.running ≠ none ∨ ∃ e ∈ s.startNext.outbox.toList, e.isOk = false := by
  rw [startNext_of_next idle next]
  cases plan : { s with queue := rest }.plan c with
  | run activity =>
    left
    rw [start, plan, startNext_of_running rfl]
    exact Option.some_ne_none _
  | expand commands =>
    obtain ⟨target, steps, line, -⟩ := plan_expand plan
    cases point.symm.trans line
  | settle result =>
    right
    obtain ⟨e, rfl, -⟩ := plan_settle plan
    have ends : { s with queue := rest }.start c =
        { s with queue := rest }.emit c.id (.error e) := by rw [start, plan]
    obtain ⟨new, later, -⟩ := Reports.of_steps (steps_startNext ({ s with queue := rest }.start c))
    refine ⟨⟨c.id, .error e⟩, ?_, rfl⟩
    rw [later, ends, emit, Array.toList_push]
    exact List.mem_append_left new List.mem_concat_self

/-- A line that is handed in while no command runs or waits is reported first, and one of its points
runs or has failed. -/
theorem Simulator.enqueue_line {s : Simulator α} {line : Command α} {target : Point α} {steps : Nat}
    (idle : s.running = none) (empty : s.queue = .empty) (clear : s.outbox = #[])
    (valid : line.kind.check = .ok ()) (kind : line.kind = .lineTo target steps) :
    ∃ t new, s.enqueue line = .ok t ∧ t.outbox.toList = ⟨line.id, .ok .expanded⟩ :: new ∧
      (t.running ≠ none ∨ ∃ e ∈ t.outbox.toList, e.isOk = false) := by
  have plan : s.plan line = .expand (lineCommands line.id s.placement.hand target steps) :=
    plan_line kind
  cases points : lineCommands line.id s.placement.hand target steps with
  | nil =>
    have count : 0 = lineCount steps := by
      rw [← length_lineCommands line.id s.placement.hand target steps, points, List.length_nil]
    have least : 2 ≤ lineCount steps := Nat.le_max_right _ _
    omega
  | cons first rest =>
    have mem : first ∈ lineCommands line.id s.placement.hand target steps := by
      rw [points]
      exact List.mem_cons_self
    obtain ⟨p, point⟩ := moveTo_of_mem_lineCommands mem
    have expands : s.start line = { s with
        queue := CommandQueue.empty.pushFront (first :: rest)
        outbox := #[⟨line.id, .ok .expanded⟩] } := by
      rw [start, plan, points]
      dsimp only [emit]
      rw [empty, clear]
      rfl
    obtain ⟨new, later, -⟩ := Reports.of_steps (steps_startNext (s.start line))
    refine ⟨_, new, enqueue_of_empty idle empty valid, ?_, ?_⟩
    · rw [later, expands]
      rfl
    · rw [expands]
      exact startNext_of_point idle rfl point

end

/-! ## The session -/

/-- The first report is about the first accepted command. -/
theorem mem_record_first (c : Command α) (later : List (Command α)) (e : CompletionEvent α)
    (events : List (CompletionEvent α)) :
    (⟨0, c, 0⟩, e) ∈ record (c :: later) (e :: events) := by
  rw [record, reported, issues, issuesFrom_cons_cons, Command.issues_eq]
  exact List.mem_cons_self

/-- A line is the first thing that is asked of a session. As soon as it is served, the answer can be
read, but a point of it still runs or has failed. -/
theorem Course.line_ahead [Scalar α] (m : ArmModel α) (speed maxStep : α) (reportCapacity : Nat)
    {line : Command α} {target : Point α} {steps : Nat} (plain : line.id.isSub = false)
    (valid : line.kind.check = .ok ()) (kind : line.kind = .lineTo target steps) :
    let c := ((Course.start m speed maxStep reportCapacity).after (.submit line)).after .serve
    c.world.isRunning = true ∧ c.world.receipts.reading? 0 = some (.ok .expanded) ∧
      (c.world.session.simulator.pendingIds ≠ [] ∨
        ∃ e ∈ reports c.journal.effects, e.isOk = false) := by
  intro c
  set j := Journal.start m speed maxStep
  obtain ⟨t, new, taken, told, point⟩ :=
    @Simulator.enqueue_line α _ j.session.simulator line target steps rfl rfl rfl valid kind
  have allowed : j.session.table.refusal? (α := α) line.id = none := by
    rw [Correlation.refusal?, plain]
    rfl
  have accepts : j.session.refusal? line = none := Session.refusal?_of_ok allowed taken
  obtain ⟨tickets, engine, -⟩ := Journal.after_of_taken accepts 0
  have after : j.engine.after (.enqueue line) = ⟨t, [line], []⟩ := by
    have same : j.engine.simulator.enqueue line = .ok t := taken
    rw [History.after, same]
    rfl
  rw [after] at engine
  have journal : c.journal = j.after (.request (.submit line 0)) := rfl
  rw [← journal] at tickets engine
  have sound : c.Sound :=
    ((Sound.start m speed maxStep reportCapacity).after (.submit line)).after .serve
  have quiet := sound.quiet
  have emitted : reports c.journal.effects = ⟨line.id, .ok .expanded⟩ :: new := by
    rw [quiet.reports_eq, engine, History.emitted_drain, ← told]
    rfl
  let arrived := (Course.start m speed maxStep reportCapacity).after (.submit line)
  obtain ⟨-, liveness, -, receipts⟩ :=
    World.act_eq { arrived.world with inbox := #[] } (.request (.submit line 0))
  have running : c.world.liveness = .running := liveness
  refine ⟨decide_eq_true running, ?_, ?_⟩
  · have held : c.world.receipts.IsHeld 0 := by
      have given : c.world.receipts = arrived.world.receipts.answerAll _ := receipts
      rw [given]
      exact (Receipts.isHeld_of_waiting rfl).answerAll _
    refine sound.follows.reading?_of_mem (quiet.tally.answers_nodup sound.distinct) held ?_
    have first : c.journal.tickets[0]? = some 0 := by
      rw [tickets]
      rfl
    rw [quiet.tally.answer_iff_of_accepted sound.distinct first, emitted, engine]
    exact ⟨_, _, mem_record_first line [] ⟨line.id, .ok .expanded⟩ new, rfl, rfl, rfl⟩
  · rw [← sound.same, ← quiet.same, engine, emitted, ← told]
    refine point.imp_left fun busy nothing => busy ?_
    have parts : t.current.toList ++ t.queue.ids = [] := nothing
    rw [List.append_eq_nil_iff, Simulator.current] at parts
    cases running : t.running with
    | none => rfl
    | some r =>
      rw [running] at parts
      cases parts.1

end PlanarArm
