import PlanarArm.Proofs.Session.Tally

/-!
# Sessions that give out their reports

Between any two actions a session has nothing left to give out (`Journal.Quiet`): what its simulator
has reported has been broadcast, in order, and the tally of the tickets is right. An abort leaves
nobody waiting, so the errors that a session has for stragglers are never needed
(`Journal.Balanced.table_of_aborted`).
-/

namespace PlanarArm

variable {α : Type}

/-- The reports that have been collected from the simulator have been given out, and the tally of
the tickets is right. -/
structure Journal.Balanced (j : Journal α) : Prop where
  account : Account j.engine
  same : j.engine.simulator = j.session.simulator
  told : j.engine.collected = reports j.effects
  tally : Tally j.engine.accepted j.tickets j.refusals j.session.table j.effects

/-- All reports have been given out. -/
structure Journal.Quiet (j : Journal α) : Prop extends j.Balanced where
  empty : j.session.simulator.outbox = #[]

namespace Journal.Balanced

variable {s : Session α} {h : History α} {effects : List (Effect α)} {tickets : List Nat}
  {refusals : List (Nat × ArmError α)}

theorem note {new : List (Effect α)} (balanced : Balanced ⟨s, h, effects, tickets, refusals⟩)
    (silent : answers new = []) (still : reports new = []) :
    Balanced ⟨s, h, effects ++ new, tickets, refusals⟩ := by
  obtain ⟨account, same, told, tally⟩ := balanced
  refine ⟨account, same, ?_, tally.note silent still⟩
  dsimp only at told ⊢
  rw [told, reports_append, still, List.append_nil]

theorem clock (balanced : Balanced ⟨s, h, effects, tickets, refusals⟩) (clock : FrameClock α) :
    Balanced ⟨⟨s.simulator, s.table, clock⟩, h, effects, tickets, refusals⟩ :=
  ⟨balanced.account, balanced.same, balanced.told, balanced.tally⟩

/-- What neither takes in a command nor collects reports keeps the balance. -/
theorem operate [Scalar α] {operation : Operation α} {t : Simulator α}
    (balanced : Balanced ⟨s, h, effects, tickets, refusals⟩)
    (kept : h.after operation = ⟨t, h.accepted, h.collected⟩) (clock : FrameClock α) :
    Balanced ⟨⟨t, s.table, clock⟩, h.after operation, effects, tickets, refusals⟩ := by
  obtain ⟨account, same, told, tally⟩ := balanced
  refine ⟨account.after operation, ?_, ?_, ?_⟩
  · rw [kept]
  · rw [kept]
    exact told
  · rw [kept]
    exact tally

theorem accept [Scalar α] {c : Command α} {t : Simulator α}
    (balanced : Balanced ⟨s, h, effects, tickets, refusals⟩)
    (allowed : s.table.refusal? (α := α) c.id = none) (taken : s.simulator.enqueue c = .ok t)
    (ticket : Nat) (clock : FrameClock α) :
    Balanced ⟨⟨t, s.table.insert c.id ticket, clock⟩, h.after (.enqueue c), effects,
      tickets ++ [ticket], refusals⟩ := by
  obtain ⟨account, same, told, tally⟩ := balanced
  dsimp only at same told tally
  have after : h.after (.enqueue c) = ⟨t, h.accepted ++ [c], h.collected⟩ := by
    rw [History.after, same, taken]
  refine ⟨account.after (.enqueue c), ?_, ?_, ?_⟩
  · rw [after]
  · rw [after]
    exact told
  · rw [after]
    exact tally.accept allowed ticket

theorem refuse (balanced : Balanced ⟨s, h, effects, tickets, refusals⟩) (x : Nat × ArmError α) :
    Balanced ⟨s, h, effects ++ [.answered x.1 (.error x.2)], tickets, refusals ++ [x]⟩ := by
  obtain ⟨account, same, told, tally⟩ := balanced
  refine ⟨account, same, ?_, tally.refuse x⟩
  dsimp only at told ⊢
  rw [told, reports_append]
  exact (List.append_nil _).symm

theorem flush [Scalar α] (balanced : Balanced ⟨s, h, effects, tickets, refusals⟩) :
    Quiet ⟨s.flush.1, h.after .drain, effects ++ s.flush.2.toList, tickets, refusals⟩ := by
  obtain ⟨account, same, told, tally⟩ := balanced
  dsimp only at same told tally
  have emitted : h.emitted = reports effects ++ s.simulator.outbox.toList := by
    rw [History.emitted, told, same]
  have logged := account.logged
  rw [emitted] at logged
  have start : effects ++ (#[] : Array (Effect α)).toList = effects := List.append_nil effects
  obtain ⟨after, given⟩ := @Tally.deliverAll _ _ _ _ _ effects #[] s.simulator.outbox.toList
    (start.symm ▸ tally) (start.symm ▸ logged)
  rw [start] at given
  refine ⟨⟨account.after .drain, ?_, ?_, after⟩, rfl⟩
  · rw [History.after, same]
    rfl
  · refine Eq.trans ?_ given.symm
    rw [← emitted]
    rfl

/-- Once nothing is pending and all reports have been given out, nobody waits. -/
theorem table_of_idle (quiet : Quiet ⟨s, h, effects, tickets, refusals⟩)
    (idle : s.simulator.pendingIds = []) : s.table = .empty := by
  obtain ⟨⟨account, same, told, tally⟩, empty⟩ := quiet
  dsimp only at same told tally empty
  have emitted : h.emitted = reports effects := by
    rw [History.emitted, told, same, empty]
    exact List.append_nil _
  have ids := account.standing.ids_eq
  rw [same, idle, emitted] at ids
  have none : waiting h.accepted (reports effects) = [] := by
    rw [waiting, List.map_eq_nil_iff.1 ids.symm]
    rfl
  have slots := tally.slots
  rw [none] at slots
  exact congrArg Correlation.mk slots.eq_nil

theorem table_of_aborted [Scalar α] {operation : Operation α} {t : Simulator α}
    {clock : FrameClock α}
    (balanced : Balanced ⟨s, h, effects, tickets, refusals⟩)
    (kept : h.after operation = ⟨t, h.accepted, h.collected⟩) (idle : t.pendingIds = []) :
    (Session.flush ⟨t, s.table, clock⟩).1.table = .empty :=
  table_of_idle (balanced.operate kept clock).flush idle

end Journal.Balanced

/-! ## Actions -/

namespace Session

theorem failAll_of_empty {s : Session α} (none : s.table = .empty) (e : ArmError α) :
    s.failAll e = (s, #[]) := by
  obtain ⟨simulator, table, clock⟩ := s
  cases none
  rfl

/-- If nobody waits after the reports have been given out, an abort publishes and does no more. -/
theorem settleAbort_of_empty [Scalar α] {s : Session α} (none : s.flush.1.table = .empty) :
    s.settleAbort = (s.flush.1, s.flush.2.push (.published s.flush.1.simulator.snapshot)) := by
  unfold settleAbort
  dsimp only
  rw [failAll_of_empty none, Array.append_empty]

theorem finish_of_empty {s : Session α}
    (none : (flush ⟨s.simulator.stop.1, s.table, s.clock⟩).1.table = .empty) :
    s.finish = flush ⟨s.simulator.stop.1, s.table, s.clock⟩ := by
  unfold finish
  dsimp only
  rw [failAll_of_empty none, Array.append_empty]

end Session

theorem Simulator.pendingIds_stop (s : Simulator α) : s.stop.1.pendingIds = [] := by
  rw [Simulator.stop_eq]
  rfl

theorem Simulator.pendingIds_hardReset [Scalar α] (s : Simulator α) :
    s.hardReset.1.pendingIds = [] := by
  rw [Simulator.hardReset_eq, Simulator.stop_eq]
  rfl

namespace Journal.Quiet

variable [Scalar α] {j : Journal α}

theorem start (m : ArmModel α) (speed maxStep : α) : Quiet (Journal.start m speed maxStep) where
  account := .start m speed
  same := rfl
  told := rfl
  tally := ⟨.nil, rfl, .nil, .nil, .nil, nofun⟩
  empty := rfl

/-- What an operation does with the simulator of the session, it does with the one that has a
past. -/
theorem engine_after (quiet : j.Quiet) {operation : Operation α} {t : Simulator α}
    (does : ∀ accepted collected, History.after ⟨j.session.simulator, accepted, collected⟩
      operation = ⟨t, accepted, collected⟩) :
    j.engine.after operation = ⟨t, j.engine.accepted, j.engine.collected⟩ := by
  have does := does j.engine.accepted j.engine.collected
  rw [← quiet.same] at does
  exact does

theorem table_of_stop (quiet : j.Quiet) (clock : FrameClock α) :
    (Session.flush ⟨j.session.simulator.stop.1, j.session.table, clock⟩).1.table = .empty := by
  have kept := @engine_after α _ j quiet .stop j.session.simulator.stop.1 fun _ _ => rfl
  exact quiet.toBalanced.table_of_aborted kept (Simulator.pendingIds_stop _)

theorem table_of_hardReset (quiet : j.Quiet) (clock : FrameClock α) :
    (Session.flush ⟨j.session.simulator.hardReset.1, j.session.table, clock⟩).1.table = .empty := by
  have kept := @engine_after α _ j quiet .hardReset j.session.simulator.hardReset.1 fun _ _ => rfl
  exact quiet.toBalanced.table_of_aborted kept (Simulator.pendingIds_hardReset _)

omit [Scalar α] in
theorem note {s : Session α} {h : History α} {effects new : List (Effect α)} {tickets : List Nat}
    {refusals : List (Nat × ArmError α)} (quiet : Quiet ⟨s, h, effects, tickets, refusals⟩)
    (silent : answers new = []) (still : reports new = []) :
    Quiet ⟨s, h, effects ++ new, tickets, refusals⟩ :=
  ⟨quiet.toBalanced.note silent still, quiet.empty⟩

theorem after_of_plain {action : Action α} {s : Session α} {out : Array (Effect α)}
    (step : j.session.step action = (s, out)) (taken : j.session.admission? action = none)
    (refused : j.session.rejection? action = none) :
    j.after action = ⟨s, j.engine.run (j.session.operations action), j.effects ++ out.toList,
      j.tickets, j.refusals⟩ := by
  rw [Journal.after, step, taken, refused]
  simp

/-- An action that does one thing with the simulator and then gives out the reports. -/
theorem after_of_flush (quiet : j.Quiet) {action : Action α} {operation : Operation α}
    {t : Simulator α} {clock later : FrameClock α} {out : Array (Effect α)}
    {new : List (Effect α)}
    (does : ∀ accepted collected, History.after ⟨j.session.simulator, accepted, collected⟩
      operation = ⟨t, accepted, collected⟩)
    (step : j.session.step action = (⟨(Session.flush ⟨t, j.session.table, clock⟩).1.simulator,
      (Session.flush ⟨t, j.session.table, clock⟩).1.table, later⟩, out))
    (effects : out.toList = (Session.flush ⟨t, j.session.table, clock⟩).2.toList ++ new)
    (operations : j.session.operations action = [operation, .drain])
    (taken : j.session.admission? action = none) (refused : j.session.rejection? action = none)
    (silent : answers new = []) (still : reports new = []) : (j.after action).Quiet := by
  have kept := quiet.engine_after does
  have flushed := (quiet.toBalanced.operate kept clock).flush.note silent still
  rw [after_of_plain step taken refused, operations, effects, ← List.append_assoc]
  exact ⟨flushed.toBalanced.clock later, flushed.empty⟩

/-- An action that does one thing with the simulator, for which nothing is to be reported. -/
theorem after_of_silent (quiet : j.Quiet) {action : Action α} {operation : Operation α}
    {t : Simulator α} {out : Array (Effect α)}
    (does : ∀ accepted collected, History.after ⟨j.session.simulator, accepted, collected⟩
      operation = ⟨t, accepted, collected⟩)
    (step : j.session.step action = (⟨t, j.session.table, j.session.clock⟩, out))
    (operations : j.session.operations action = [operation])
    (taken : j.session.admission? action = none) (refused : j.session.rejection? action = none)
    (outbox : t.outbox = j.session.simulator.outbox) (silent : answers out.toList = [])
    (still : reports out.toList = []) : (j.after action).Quiet := by
  have kept := quiet.engine_after does
  have operated := quiet.toBalanced.operate kept j.session.clock
  rw [after_of_plain step taken refused, operations]
  exact Quiet.note ⟨operated, outbox.trans quiet.empty⟩ silent still

theorem after_submit (quiet : j.Quiet) (c : Command α) (ticket : Nat) :
    (j.after (.request (.submit c ticket))).Quiet := by
  cases verdict : j.session.refusal? c with
  | some e =>
    have step : j.session.step (.request (.submit c ticket)) =
        (j.session, #[.answered ticket (.error e)]) := Session.submit_of_refusal verdict ticket
    have after : j.after (.request (.submit c ticket)) = ⟨j.session, j.engine,
        j.effects ++ [.answered ticket (.error e)], j.tickets, j.refusals ++ [(ticket, e)]⟩ := by
      rw [Journal.after, step, Session.operations, Session.admission?, Session.rejection?, verdict]
      simp
    rw [after]
    exact ⟨quiet.toBalanced.refuse (ticket, e), quiet.empty⟩
  | none =>
    obtain ⟨t, allowed, enqueued, submitted⟩ := Session.submit_of_accepted verdict ticket
    have step : j.session.step (.request (.submit c ticket)) =
        Session.flush ⟨t, j.session.table.insert c.id ticket, j.session.clock⟩ := submitted
    have after : j.after (.request (.submit c ticket)) =
        ⟨(Session.flush ⟨t, j.session.table.insert c.id ticket, j.session.clock⟩).1,
          (j.engine.after (.enqueue c)).after .drain,
          j.effects ++
            (Session.flush ⟨t, j.session.table.insert c.id ticket, j.session.clock⟩).2.toList,
          j.tickets ++ [ticket], j.refusals⟩ := by
      rw [Journal.after, step, Session.operations, Session.admission?, Session.rejection?, verdict]
      simp
    rw [after]
    exact (quiet.toBalanced.accept allowed enqueued ticket j.session.clock).flush

omit [Scalar α] in
theorem toList_push_push (out : Array (Effect α)) (first second : Effect α) :
    ((out.push first).push second).toList = out.toList ++ [first, second] := by
  rw [Array.toList_push, Array.toList_push, List.append_assoc, List.singleton_append]

-- Nobody is left to be failed once the reports of an abort have been given out, so an abort is an
-- action that gives out reports like any other.
theorem after_stop (quiet : j.Quiet) (ack : Nat) : (j.after (.request (.stop ack))).Quiet := by
  have settled := Session.settleAbort_of_empty (quiet.table_of_stop j.session.clock)
  have step : j.session.step (.request (.stop ack)) =
      ((Session.settleAbort ⟨j.session.simulator.stop.1, j.session.table, j.session.clock⟩).1,
        (Session.settleAbort ⟨j.session.simulator.stop.1, j.session.table,
          j.session.clock⟩).2.push (.acknowledged ack j.session.simulator.stop.2)) := rfl
  rw [settled] at step
  exact quiet.after_of_flush (fun _ _ => rfl) step (toList_push_push _ _ _) rfl rfl rfl rfl rfl

theorem after_hardReset (quiet : j.Quiet) (ack : Nat) :
    (j.after (.request (.hardReset ack))).Quiet := by
  have settled := Session.settleAbort_of_empty (quiet.table_of_hardReset j.session.clock)
  have step : j.session.step (.request (.hardReset ack)) =
      (⟨(Session.settleAbort ⟨j.session.simulator.hardReset.1, j.session.table,
          j.session.clock⟩).1.simulator,
        (Session.settleAbort ⟨j.session.simulator.hardReset.1, j.session.table,
          j.session.clock⟩).1.table, j.session.clock.reset⟩,
        (Session.settleAbort ⟨j.session.simulator.hardReset.1, j.session.table,
          j.session.clock⟩).2.push (.acknowledged ack j.session.simulator.hardReset.2)) := rfl
  rw [settled] at step
  exact quiet.after_of_flush (fun _ _ => rfl) step (toList_push_push _ _ _) rfl rfl rfl rfl rfl

theorem after_finish (quiet : j.Quiet) : (j.after .finish).Quiet := by
  have step : j.session.step .finish = j.session.finish := rfl
  rw [Session.finish_of_empty (quiet.table_of_stop _)] at step
  exact quiet.after_of_flush (fun _ _ => rfl) step (List.append_nil _).symm rfl rfl rfl rfl rfl

theorem after (quiet : j.Quiet) (action : Action α) : (j.after action).Quiet := by
  cases action with
  | frame now =>
    exact quiet.after_of_flush (fun _ _ => rfl) rfl Array.toList_push rfl rfl rfl rfl rfl
  | request r =>
    cases r with
    | submit c ticket => exact quiet.after_submit c ticket
    | setSpeed value =>
      exact quiet.after_of_silent (fun _ _ => rfl) rfl rfl rfl rfl rfl rfl rfl
    | resetPath => exact quiet.after_of_silent (fun _ _ => rfl) rfl rfl rfl rfl rfl rfl rfl
    | stop ack => exact quiet.after_stop ack
    | hardReset ack => exact quiet.after_hardReset ack
  | finish => exact quiet.after_finish

theorem run (m : ArmModel α) (speed maxStep : α) (actions : List (Action α)) :
    ((Journal.start m speed maxStep).run actions).Quiet :=
  Journal.run_keeps (fun _ action quiet => quiet.after action) (.start m speed maxStep) actions

/-! ## Identifiers -/

omit [Scalar α] in
theorem reports_eq (quiet : j.Quiet) : reports j.effects = j.engine.emitted := by
  have none : j.engine.simulator.outbox.toList = [] := by
    rw [quiet.same, quiet.empty]
  rw [History.emitted, none, List.append_nil, quiet.told]

omit [Scalar α] in
/-- The identifiers under which tickets wait are those of the accepted commands that are
outstanding. -/
theorem keys_perm (quiet : j.Quiet) :
    j.session.table.keys.Perm
      ((waiting j.engine.accepted j.engine.emitted).map fun i => i.origin.id) := by
  have slots := quiet.tally.slots.map Prod.fst
  rw [List.map_map, quiet.reports_eq] at slots
  exact slots

omit [Scalar α] in
theorem pendingIds_eq (quiet : j.Quiet) :
    j.session.simulator.pendingIds =
      (outstanding j.engine.accepted j.engine.emitted).map Issue.id := by
  rw [← quiet.same]
  exact quiet.account.standing.ids_eq

omit [Scalar α] in
theorem pendingIds_nodup (quiet : j.Quiet) : j.session.simulator.pendingIds.Nodup := by
  have keys := quiet.keys_perm
  rw [quiet.pendingIds_eq]
  refine quiet.account.logged.fronted.ids_nodup (keys.nodup quiet.tally.keys) ?_
  intro i mem
  exact quiet.tally.plain _ (keys.mem_iff.2 (List.mem_map_of_mem mem))

omit [Scalar α] in
/-- A ticket waits under an identifier if and only if that is pending and not a numbered one. -/
theorem mem_keys_iff (quiet : j.Quiet) (id : CommandId) :
    id ∈ j.session.table.keys ↔ id ∈ j.session.simulator.pendingIds ∧ id.isSub = false := by
  constructor
  · intro mem
    refine ⟨?_, quiet.tally.plain id mem⟩
    obtain ⟨i, waits, rfl⟩ := List.mem_map.1 (quiet.keys_perm.mem_iff.1 mem)
    obtain ⟨left, own⟩ := List.mem_filter.1 waits
    rw [quiet.pendingIds_eq, ← Issue.id_of_isOwn own]
    exact List.mem_map_of_mem left
  · rintro ⟨pending, plain⟩
    rw [quiet.pendingIds_eq] at pending
    obtain ⟨i, left, rfl⟩ := List.mem_map.1 pending
    have own : i.isOwn = true := by
      refine Issue.isOwn_iff.2 (Classical.byContradiction fun numbered => ?_)
      cases plain.symm.trans (Issue.isSub_of_part numbered)
    have waits : i ∈ waiting j.engine.accepted j.engine.emitted := List.mem_filter.2 ⟨left, own⟩
    rw [Issue.id_of_isOwn own, quiet.keys_perm.mem_iff]
    exact List.mem_map_of_mem waits

end Journal.Quiet

/-- Between any two actions of a session, whatever they are: nothing is left to give out, and what
has been broadcast is what the simulator has reported; the pending commands have different
identifiers; the table has those of them that are not numbered, each once; and after an abort nobody
is left to be failed. -/
theorem table_correlated [Scalar α] (m : ArmModel α) (speed maxStep : α)
    (actions : List (Action α)) :
    let j := (Journal.start m speed maxStep).run actions
    let s := j.session
    j.engine.simulator = s.simulator ∧
      (s.simulator.outbox = #[] ∧ reports j.effects = j.engine.emitted) ∧
      (s.simulator.current.toList ++ s.simulator.queue.ids).Nodup ∧
      (s.table.keys.Nodup ∧ ∀ id, id ∈ s.table.keys ↔
        id ∈ s.simulator.current.toList ++ s.simulator.queue.ids ∧ id.isSub = false) ∧
      ∀ e,
        ((Session.flush ⟨s.simulator.stop.1, s.table, s.clock⟩).1.failAll e).2 = #[] ∧
        ((Session.flush ⟨s.simulator.hardReset.1, s.table, s.clock⟩).1.failAll e).2 = #[] := by
  intro j s
  have quiet : j.Quiet := .run m speed maxStep actions
  refine ⟨quiet.same, ⟨quiet.empty, quiet.reports_eq⟩, quiet.pendingIds_nodup,
    ⟨quiet.tally.keys, quiet.mem_keys_iff⟩, fun e => ⟨?_, ?_⟩⟩
  · rw [Session.failAll_of_empty (quiet.table_of_stop s.clock)]
  · rw [Session.failAll_of_empty (quiet.table_of_hardReset s.clock)]

end PlanarArm
