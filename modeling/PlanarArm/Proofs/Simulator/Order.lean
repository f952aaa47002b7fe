import Mathlib.Data.List.Forall2
import PlanarArm.Proofs.Simulator.History

/-!
# Commands end in order

No command is lost, none ends twice, and they end in the order in which they were accepted, the
numbered commands that replace a line right behind it. The invariant is `Account`: the reports made
so far are about the first issues of the accepted commands (`Logged`), and the running command and
the waiting ones stand for the outstanding issues, one for one (`Standing`).

* `Account.step`, `Account.after`, `Account.run`: a step, an operation and a run keep it.
* `emitted_then_pending_ids`: the identifiers of everything reported, running and waiting are those
  of the issues, and exactly the aborting operations report an abort.
-/

namespace PlanarArm

variable {α : Type}

/-! ## What ends a command -/

section Ends

variable [Scalar α]

/-- A point is refused because it is out of reach, or because of the joint ranges. -/
theorem inverse_error {m : ArmModel α} {target : Point α} {e : ArmError α}
    (failed : inverse m target = .error e) : e = .unreachable target ∨ e = .jointLimits target := by
  unfold inverse at failed
  dsimp only at failed
  split at failed
  · split at failed
    · cases failed
    · split at failed <;> cases failed
      exact Or.inr rfl
  · cases failed
    exact Or.inl rfl

theorem Simulator.plan_settle {s : Simulator α} {c : Command α} {result : CommandResult α}
    (plan : s.plan c = .settle result) : ∃ e, result = .error e ∧ e ≠ .stopped := by
  unfold Simulator.plan Simulator.motionTo at plan
  split at plan
  · cases plan
  · split at plan
    · cases plan
    · cases plan
      exact ⟨_, rfl, nofun⟩
  · split at plan
    · cases plan
    · next e failed =>
      cases plan
      refine ⟨e, rfl, ?_⟩
      rcases inverse_error failed with rfl | rfl
      · exact nofun
      · exact nofun
  · cases plan
  · cases plan
  · cases plan
    exact ⟨_, rfl, nofun⟩

theorem Running.note_of_arrived {r : Running α} {angles : JointPair α} {completion : Completion}
    (stage : r.stage = .arrived angles completion) : completion.note = none := by
  unfold Running.stage at stage
  split at stage
  · split at stage <;> cases stage
  · dsimp only at stage
    split at stage
    · cases stage
      unfold Motion.completion
      split <;> rfl
    · cases stage

theorem Running.retime_id (r : Running α) (m : ArmModel α) (scale : α) :
    (r.retime m scale).id = r.id := by
  unfold Running.retime
  split <;> rfl

theorem Simulator.setSpeed_current (s : Simulator α) (value : α) :
    (s.setSpeed value).current = s.current := by
  unfold Simulator.current Simulator.setSpeed
  rw [Option.map_map]
  exact Option.map_congr fun r _ => r.retime_id _ _

end Ends

theorem CommandQueue.toList_of_pop {q rest : CommandQueue α} {c : Command α}
    (next : q.pop? = some (c, rest)) : q.toList = c :: rest.toList := by
  unfold CommandQueue.pop? at next
  split at next
  · cases next
  · next d ds eq =>
    cases next
    exact eq

/-! ## Commands that stand for issues -/

/-- A waiting command stands for an issue: it has its identifier, it is the accepted command itself
if the issue is, and it is no line if the issue is numbered. -/
structure StandsFor (c : Command α) (i : Issue α) : Prop where
  id_eq : c.id = i.id
  own : i.part = 0 → c = i.origin
  numbered : i.part ≠ 0 → ∀ target steps, c.kind ≠ .lineTo target steps

/-- The running command and the waiting ones stand for issues, one for one and in order. -/
inductive Standing : Simulator α → List (Issue α) → Prop
  | idle {s : Simulator α} {issues : List (Issue α)} (idle : s.running = none)
      (queue : List.Forall₂ StandsFor s.queue.toList issues) : Standing s issues
  | busy {s : Simulator α} {r : Running α} {i : Issue α} {rest : List (Issue α)}
      (busy : s.running = some r) (named : r.id = i.id)
      (queue : List.Forall₂ StandsFor s.queue.toList rest) : Standing s (i :: rest)

namespace Standing

variable {s : Simulator α} {issues : List (Issue α)}

theorem queue_of_idle (standing : Standing s issues) (idle : s.running = none) :
    List.Forall₂ StandsFor s.queue.toList issues := by
  cases standing with
  | idle _ queue => exact queue
  | busy busy => cases idle.symm.trans busy

theorem head_of_busy {r : Running α} (standing : Standing s issues) (busy : s.running = some r) :
    ∃ i rest, issues = i :: rest ∧ r.id = i.id ∧ List.Forall₂ StandsFor s.queue.toList rest := by
  cases standing with
  | idle idle => cases idle.symm.trans busy
  | busy same named queue =>
    cases busy.symm.trans same
    exact ⟨_, _, rfl, named, queue⟩

theorem head_of_next {c : Command α} {rest : CommandQueue α} (standing : Standing s issues)
    (idle : s.running = none) (next : s.queue.pop? = some (c, rest)) :
    ∃ i later, issues = i :: later ∧ StandsFor c i ∧
      List.Forall₂ StandsFor rest.toList later := by
  have queue := standing.queue_of_idle idle
  rw [CommandQueue.toList_of_pop next] at queue
  cases queue with
  | cons head tail => exact ⟨_, _, rfl, head, tail⟩

theorem push {c : Command α} {i : Issue α} (standing : Standing s issues) (own : StandsFor c i) :
    Standing { s with queue := s.queue.push c } (issues ++ [i]) := by
  cases standing with
  | idle idle queue => exact .idle idle (List.rel_append queue (.cons own .nil))
  | busy busy named queue => exact .busy busy named (List.rel_append queue (.cons own .nil))

theorem of_same {t : Simulator α} (standing : Standing s issues) (current : t.current = s.current)
    (queue : t.queue = s.queue) : Standing t issues := by
  unfold Simulator.current at current
  cases standing with
  | idle idle waiting =>
    rw [idle, Option.map_none, Option.map_eq_none_iff] at current
    exact .idle current (queue ▸ waiting)
  | busy busy named waiting =>
    rw [busy, Option.map_some, Option.map_eq_some_iff] at current
    obtain ⟨r, running, same⟩ := current
    exact .busy running (same.trans named) (queue ▸ waiting)

theorem ids_eq (standing : Standing s issues) : s.pendingIds = issues.map Issue.id := by
  have waiting {cs : List (Command α)} {issues : List (Issue α)}
      (queue : List.Forall₂ StandsFor cs issues) : cs.map Command.id = issues.map Issue.id := by
    induction queue with
    | nil => rfl
    | cons head _ ih => rw [List.map_cons, List.map_cons, head.id_eq, ih]
  unfold Simulator.pendingIds Simulator.current CommandQueue.ids
  cases standing with
  | idle idle queue =>
    rw [idle, waiting queue]
    rfl
  | busy busy named queue =>
    rw [busy, waiting queue, List.map_cons, ← named]
    rfl

end Standing

/-- The numbered commands that replace a line stand for its numbered issues. -/
theorem standing_lineCommands [Scalar α] {i : Issue α} {c : Command α} {target : Point α}
    {steps : Nat} (kind : i.origin.kind = .lineTo target steps) (same : c = i.origin)
    (source : Point α) :
    List.Forall₂ StandsFor (lineCommands c.id source target steps) (i.origin.parts i.entry) := by
  have count : i.origin.partCount = lineCount steps := by rw [Command.partCount, kind]
  unfold lineCommands Command.parts
  rw [count, List.forall₂_map_left_iff, List.forall₂_map_right_iff, List.forall₂_same]
  intro k _
  refine ⟨?_, nofun, nofun⟩
  rw [same]
  rfl

/-! ## The account -/

/-- The reports are about the first issues of the accepted commands, and what runs and waits stands
for the others. -/
structure Account (h : History α) : Prop where
  logged : Logged h.accepted h.emitted
  standing : Standing h.simulator (outstanding h.accepted h.emitted)

namespace Account

variable {s t : Simulator α} {accepted : List (Command α)} {collected : List (CompletionEvent α)}

theorem emitted_emit (s : Simulator α) (accepted : List (Command α))
    (collected : List (CompletionEvent α)) (id : CommandId) (result : CommandResult α) :
    History.emitted ⟨s.emit id result, accepted, collected⟩ =
      History.emitted ⟨s, accepted, collected⟩ ++ [⟨id, result⟩] := by
  simp [History.emitted, Simulator.emit]

/-- Nothing is reported while the first outstanding issue runs. -/
theorem quiet {issues : List (Issue α)}
    (logged : Logged accepted (History.emitted ⟨s, accepted, collected⟩))
    (next : outstanding accepted (History.emitted ⟨s, accepted, collected⟩) = issues)
    (standing : Standing s issues) : Account ⟨s, accepted, collected⟩ :=
  ⟨logged, next ▸ standing⟩

/-- A report on the first outstanding issue leaves the numbered issues, if any, and the others. -/
theorem emit {i : Issue α} {rest : List (Issue α)} {id : CommandId} {result : CommandResult α}
    (logged : Logged accepted (History.emitted ⟨s, accepted, collected⟩))
    (next : outstanding accepted (History.emitted ⟨s, accepted, collected⟩) = i :: rest)
    (named : i.id = id)
    (line : CompletionEvent.isExpanded ⟨id, result⟩ = true →
      i.part = 0 ∧ ∃ target steps, i.origin.kind = .lineTo target steps)
    (standing : Standing (s.emit id result) (i.followers ⟨id, result⟩ ++ rest)) :
    Account ⟨s.emit id result, accepted, collected⟩ := by
  refine ⟨?_, ?_⟩
  · rw [emitted_emit]
    exact .snoc logged next named line
  · rw [emitted_emit, outstanding_snoc next]
    exact standing

theorem emit_plain {i : Issue α} {rest : List (Issue α)} {id : CommandId}
    {result : CommandResult α}
    (logged : Logged accepted (History.emitted ⟨s, accepted, collected⟩))
    (next : outstanding accepted (History.emitted ⟨s, accepted, collected⟩) = i :: rest)
    (named : i.id = id) (plain : CompletionEvent.isExpanded ⟨id, result⟩ = false)
    (standing : Standing (s.emit id result) rest) :
    Account ⟨s.emit id result, accepted, collected⟩ := by
  refine emit logged next named (fun expanded => ?_) ?_
  · cases plain.symm.trans expanded
  · rw [Issue.followers_of_plain plain]
    exact standing

theorem step [Scalar α] (step : s.Step t) (account : Account ⟨s, accepted, collected⟩) :
    Account ⟨t, accepted, collected⟩ := by
  obtain ⟨logged, standing⟩ := account
  cases step with
  | begin idle next plan =>
    obtain ⟨i, rest, issues, head, queue⟩ := standing.head_of_next idle next
    exact quiet logged issues (.busy rfl head.id_eq queue)
  | replace idle next plan =>
    obtain ⟨i, rest, issues, head, queue⟩ := standing.head_of_next idle next
    obtain ⟨target, steps, kind, rfl⟩ := Simulator.plan_expand plan
    -- A line is never a numbered command, so what it is replaced by is numbered for the first time.
    have own : i.part = 0 := Classical.byContradiction fun numbered =>
      head.numbered numbered target steps kind
    have same := head.own own
    refine emit logged issues head.id_eq.symm (fun _ => ⟨own, target, steps, same ▸ kind⟩)
      (.idle idle ?_)
    rw [Issue.followers, if_pos ⟨own, rfl⟩]
    exact List.rel_append (standing_lineCommands (same ▸ kind) same _) queue
  | settle idle next plan =>
    obtain ⟨i, rest, issues, head, queue⟩ := standing.head_of_next idle next
    obtain ⟨e, rfl, -⟩ := Simulator.plan_settle plan
    exact emit_plain logged issues head.id_eq.symm rfl (.idle idle queue)
  | wait dt busy stage =>
    obtain ⟨i, rest, issues, named, queue⟩ := standing.head_of_busy busy
    exact quiet logged issues (.busy rfl named queue)
  | move dt busy stage =>
    obtain ⟨i, rest, issues, named, queue⟩ := standing.head_of_busy busy
    exact quiet logged issues (.busy rfl named queue)
  | arrive dt busy stage =>
    obtain ⟨i, rest, issues, named, queue⟩ := standing.head_of_busy busy
    refine emit_plain logged issues named.symm ?_ (.idle rfl queue)
    have plain := Running.note_of_arrived stage
    exact beq_eq_false_iff_ne.2 (plain ▸ (Option.some_ne_none _).symm)
  | elapse dt busy stage =>
    obtain ⟨i, rest, issues, named, queue⟩ := standing.head_of_busy busy
    exact emit_plain logged issues named.symm rfl (.idle rfl queue)

/-! ### Operations -/

theorem start [Scalar α] (m : ArmModel α) (speed : α) :
    Account (History.start (Simulator.withSpeed m speed)) :=
  ⟨.nil, .idle rfl .nil⟩

theorem steps [Scalar α] (steps : s.Steps t) (account : Account ⟨s, accepted, collected⟩) :
    Account ⟨t, accepted, collected⟩ :=
  steps.keeps Account.step account

theorem accept (account : Account ⟨s, accepted, collected⟩) (c : Command α) :
    Account ⟨{ s with queue := s.queue.push c }, accepted ++ [c], collected⟩ := by
  obtain ⟨logged, standing⟩ := account
  have own : StandsFor c ⟨accepted.length, c, 0⟩ :=
    ⟨rfl, fun _ => rfl, fun numbered => absurd rfl numbered⟩
  have later := outstanding_accept logged.length_le c
  exact quiet (logged.accept c) later (standing.push own)

theorem of_same (account : Account ⟨s, accepted, collected⟩) (outbox : t.outbox = s.outbox)
    (current : t.current = s.current) (queue : t.queue = s.queue) :
    Account ⟨t, accepted, collected⟩ := by
  obtain ⟨logged, standing⟩ := account
  have emitted : History.emitted ⟨t, accepted, collected⟩ =
      History.emitted ⟨s, accepted, collected⟩ := by
    rw [History.emitted, History.emitted, outbox]
  refine ⟨?_, ?_⟩
  · rw [emitted]
    exact logged
  · rw [emitted]
    exact standing.of_same current queue

theorem abort (account : Account ⟨s, accepted, collected⟩) (idle : t.running = none)
    (empty : t.queue = .empty)
    (outbox : t.outbox = s.outbox ++ (s.pendingIds.map CompletionEvent.aborted).toArray) :
    Account ⟨t, accepted, collected⟩ := by
  obtain ⟨logged, standing⟩ := account
  have emitted : History.emitted ⟨t, accepted, collected⟩ =
      History.emitted ⟨s, accepted, collected⟩ ++
        ((outstanding accepted (History.emitted ⟨s, accepted, collected⟩)).map Issue.id).map
          CompletionEvent.aborted := by
    rw [← standing.ids_eq]
    simp [History.emitted, outbox]
  obtain ⟨logged, none⟩ := logged.abort rfl
  refine ⟨?_, ?_⟩
  · rw [emitted]
    exact logged
  · rw [emitted, none]
    refine .idle idle ?_
    rw [empty]
    exact .nil

theorem after [Scalar α] {h : History α} (account : Account h) (operation : Operation α) :
    Account (h.after operation) := by
  cases operation with
  | enqueue c =>
    unfold History.after
    dsimp only
    split
    · next t taken => exact (account.accept c).steps (Simulator.steps_of_enqueue taken)
    · exact account
  | tick dt => exact account.steps (Simulator.steps_tick h.simulator dt)
  | setSpeed value => exact account.of_same rfl (h.simulator.setSpeed_current value) rfl
  | resetPath => exact account.of_same rfl rfl rfl
  | stop =>
    unfold History.after
    rw [Simulator.stop_eq]
    exact account.abort rfl rfl rfl
  | hardReset =>
    unfold History.after
    rw [Simulator.hardReset_eq, Simulator.stop_eq]
    exact account.abort rfl rfl rfl
  | drain =>
    obtain ⟨logged, standing⟩ := account
    refine ⟨?_, ?_⟩
    · rw [h.emitted_drain]
      exact logged
    · rw [h.emitted_drain]
      exact standing.of_same rfl rfl

/-- Whatever is done with a simulator, each report is about the issue whose turn it is. -/
theorem run [Scalar α] (m : ArmModel α) (speed : α) (operations : List (Operation α)) :
    Account ((History.start (.withSpeed m speed)).run operations) :=
  History.run_keeps (fun _ operation account => account.after operation) (.start m speed) operations

end Account

/-! ## Which operations report an abort -/

/-- `t` has the reports of `s` and behind them others, none of which tells of an abort. -/
def Simulator.Reports (s t : Simulator α) : Prop :=
  ∃ new : List (CompletionEvent α), t.outbox.toList = s.outbox.toList ++ new ∧
    ∀ e ∈ new, e.result ≠ .error .stopped

namespace Simulator.Reports

variable {s t u : Simulator α}

theorem of_same (outbox : t.outbox = s.outbox) : Reports s t :=
  ⟨[], by rw [outbox, List.append_nil], nofun⟩

theorem of_push {e : CompletionEvent α} (outbox : t.outbox = s.outbox.push e)
    (plain : e.result ≠ .error .stopped) : Reports s t := by
  refine ⟨[e], by rw [outbox, Array.toList_push], ?_⟩
  intro d mem
  rwa [List.mem_singleton.1 mem]

theorem trans (first : Reports s t) (second : Reports t u) : Reports s u := by
  obtain ⟨new, appended, plain⟩ := first
  obtain ⟨newer, later, quiet⟩ := second
  refine ⟨new ++ newer, by rw [later, appended, List.append_assoc], ?_⟩
  intro e mem
  rcases List.mem_append.1 mem with old | young
  · exact plain e old
  · exact quiet e young

theorem of_step [Scalar α] (step : s.Step t) : Reports s t := by
  cases step with
  | begin => exact .of_same rfl
  | replace => exact .of_push rfl nofun
  | settle idle next plan =>
    obtain ⟨e, rfl, other⟩ := plan_settle plan
    refine .of_push rfl fun stopped => ?_
    cases stopped
    exact other rfl
  | wait => exact .of_same rfl
  | move => exact .of_same rfl
  | arrive => exact .of_push rfl nofun
  | elapse => exact .of_push rfl nofun

theorem of_steps [Scalar α] (steps : s.Steps t) : Reports s t := by
  induction steps with
  | refl => exact .of_same rfl
  | tail _ last ih => exact ih.trans (.of_step last)

end Simulator.Reports

namespace History

variable [Scalar α] {h : History α} {operation : Operation α}

/-- The operation puts reports behind the others, which tell of an abort if and only if it is meant
to abort. -/
def Appends (h : History α) (operation : Operation α) : Prop :=
  ∃ new, (h.after operation).emitted = h.emitted ++ new ∧
    ∀ e ∈ new, (e.result = .error .stopped ↔ operation.aborts = true)

theorem appends_of_reports {t : Simulator α} {accepted : List (Command α)}
    (after : h.after operation = ⟨t, accepted, h.collected⟩) (plain : operation.aborts = false)
    (reports : h.simulator.Reports t) : h.Appends operation := by
  obtain ⟨new, appended, other⟩ := reports
  refine ⟨new, ?_, fun e mem => ⟨fun stopped => absurd stopped (other e mem), fun aborts => ?_⟩⟩
  · rw [after, emitted, emitted, appended, List.append_assoc]
  · cases plain.symm.trans aborts

theorem appends_of_abort {t : Simulator α}
    (after : h.after operation = ⟨t, h.accepted, h.collected⟩) (aborts : operation.aborts = true)
    (outbox : t.outbox = h.simulator.outbox ++
      (h.simulator.pendingIds.map CompletionEvent.aborted).toArray) : h.Appends operation := by
  refine ⟨h.simulator.pendingIds.map CompletionEvent.aborted, ?_, fun e mem => ?_⟩
  · simp [after, emitted, outbox]
  · obtain ⟨id, -, rfl⟩ := List.mem_map.1 mem
    exact ⟨fun _ => aborts, fun _ => rfl⟩

theorem appends (h : History α) (operation : Operation α) : h.Appends operation := by
  cases operation with
  | enqueue c =>
    cases taken : h.simulator.enqueue c with
    | ok t =>
      have after : h.after (.enqueue c) = ⟨t, h.accepted ++ [c], h.collected⟩ := by
        rw [History.after, taken]
      have pushed : h.simulator.Reports { h.simulator with queue := h.simulator.queue.push c } :=
        .of_same rfl
      exact appends_of_reports after rfl
        (pushed.trans (.of_steps (Simulator.steps_of_enqueue taken)))
    | error e =>
      have after : h.after (.enqueue c) = h := by rw [History.after, taken]
      exact appends_of_reports after rfl (.of_same rfl)
  | tick dt =>
    have after : h.after (.tick dt) = ⟨h.simulator.tick dt, h.accepted, h.collected⟩ := rfl
    exact appends_of_reports after rfl (.of_steps (Simulator.steps_tick h.simulator dt))
  | setSpeed value =>
    have after : h.after (.setSpeed value) =
      ⟨h.simulator.setSpeed value, h.accepted, h.collected⟩ := rfl
    exact appends_of_reports after rfl (.of_same rfl)
  | resetPath =>
    have after : h.after .resetPath = ⟨h.simulator.resetPath, h.accepted, h.collected⟩ := rfl
    exact appends_of_reports after rfl (.of_same rfl)
  | stop =>
    have after : h.after .stop = ⟨h.simulator.stop.1, h.accepted, h.collected⟩ := rfl
    exact appends_of_abort after rfl (by rw [Simulator.stop_eq])
  | hardReset =>
    have after : h.after .hardReset = ⟨h.simulator.hardReset.1, h.accepted, h.collected⟩ := rfl
    exact appends_of_abort after rfl (by rw [Simulator.hardReset_eq, Simulator.stop_eq])
  | drain =>
    exact ⟨[], h.emitted_drain.trans (List.append_nil _).symm,
      fun e mem => absurd mem List.not_mem_nil⟩

theorem emitted_after (h : History α) (operation : Operation α) :
    (h.after operation).emitted = h.emitted ++ h.emittedBy operation := by
  obtain ⟨new, appended, -⟩ := h.appends operation
  rw [emittedBy, appended, List.drop_left]

theorem stopped_iff_aborts {e : CompletionEvent α} (mem : e ∈ h.emittedBy operation) :
    e.result = .error .stopped ↔ operation.aborts = true := by
  obtain ⟨new, appended, stopped⟩ := h.appends operation
  rw [emittedBy, appended, List.drop_left] at mem
  exact stopped e mem

end History

/-- Over a whole run: everything reported, then the running command, then the waiting ones are the
issues of the accepted commands, in order. Only an accepted line is reported as replaced; and an
operation adds its reports behind the others, which tell of an abort if and only if it aborts. -/
theorem emitted_then_pending_ids [Scalar α] (m : ArmModel α) (speed : α)
    (operations : List (Operation α)) :
    let h := (History.start (.withSpeed m speed)).run operations
    h.emitted.map CompletionEvent.id ++ (h.simulator.current.toList ++ h.simulator.queue.ids) =
        (issues h.accepted h.emitted).map Issue.id ∧
      (∀ i e, (i, e) ∈ record h.accepted h.emitted → e.isExpanded = true →
        i.part = 0 ∧ ∃ target steps, i.origin.kind = .lineTo target steps) ∧
      ∀ operation, (h.after operation).emitted = h.emitted ++ h.emittedBy operation ∧
        ∀ e ∈ h.emittedBy operation, (e.result = .error .stopped ↔ operation.aborts = true) := by
  intro h
  have account : Account h := .run m speed operations
  refine ⟨?_, ?_, ?_⟩
  · have pending : h.simulator.current.toList ++ h.simulator.queue.ids = _ :=
      account.standing.ids_eq
    rw [pending]
    exact account.logged.ids_eq
  · intro i e mem expanded
    exact account.logged.line_of_expanded mem expanded
  · intro operation
    exact ⟨h.emitted_after operation, fun e mem => History.stopped_iff_aborts mem⟩

end PlanarArm
