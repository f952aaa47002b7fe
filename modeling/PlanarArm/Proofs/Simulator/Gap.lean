import PlanarArm.Proofs.Simulator.Order
import PlanarArm.Proofs.Simulator.Rest

/-!
# No gap between two commands

Whenever an operation has ended, a command runs or none waits. So nothing is lost by ticks of an arm
without commands (`Simulator.tick_of_idle`), and the operation that reports the end of a command is
the one in which the next command starts that can (`History.Resumed`): only commands that end
without running are passed over for it, and each of them is reported in that operation, too.

* `Simulator.startNext_passes`: what the start loop reports are commands that do not run.
* `Account.resumed`: what it leaves running is the first outstanding command, and no time has
  passed for it.
* `History.resumes`: what each operation reports, and what runs then.
* `no_idle_gap`: all of it together, in every state of every run.
-/

namespace PlanarArm

variable {α : Type} [Scalar α]

/-- The command does not run when it has its turn where the arm stands, and the report says what
comes of it instead. -/
def Simulator.PassesOver (s : Simulator α) (c : Command α) (e : CompletionEvent α) : Prop :=
  c.id = e.id ∧ (s.plan c = .settle e.result ∨
    e.result = .ok .expanded ∧ ∃ commands, s.plan c = .expand commands)

/-- The report is what comes of a command that does not run when it has its turn where the arm
stands. -/
def CompletionEvent.Passed (s : Simulator α) (e : CompletionEvent α) : Prop :=
  ∃ c : Command α, s.PassesOver c e

/-- The running command has had no time yet, and it is the first outstanding one; if none runs, none
is outstanding. -/
def History.Resumed (h : History α) : Prop :=
  (h.simulator.running = none ∧ outstanding h.accepted h.emitted = []) ∨
    ∃ c activity i rest, h.simulator.running = some (.begin c.id activity) ∧
      h.simulator.plan c = .run activity ∧
      outstanding h.accepted h.emitted = i :: rest ∧ StandsFor c i

/-! ## The start loop -/

namespace Simulator

/-- How a command starts depends on the arm alone, and on where it stands. -/
theorem plan_congr {s t : Simulator α} (model : t.model = s.model) (angles : t.angles = s.angles)
    (scale : t.speedScale = s.speedScale) (c : Command α) : t.plan c = s.plan c := by
  unfold plan motionTo placement
  rw [model, angles, scale]

/-- The start loop does not move the arm. -/
theorem plan_startNext (s : Simulator α) (c : Command α) : s.startNext.plan c = s.plan c :=
  have kept := (steps_startNext s).kept
  plan_congr kept.1 (startNext_angles s) kept.2 c

theorem plan_start (s : Simulator α) (c d : Command α) : (s.start c).plan d = s.plan d := by
  unfold start
  split <;> exact plan_congr rfl rfl rfl d

/-- A command that has its turn starts to run, or there is a report that it does not. -/
theorem start_cases (s : Simulator α) (c : Command α) :
    (∃ activity, s.plan c = .run activity ∧
      s.start c = { s with running := some (.begin c.id activity) }) ∨
    ∃ e : CompletionEvent α, s.PassesOver c e ∧ (s.start c).running = s.running ∧
      (s.start c).outbox = s.outbox.push e := by
  unfold start
  cases plan : s.plan c with
  | run activity => exact .inl ⟨activity, rfl, rfl⟩
  | expand commands =>
    exact .inr ⟨⟨c.id, .ok .expanded⟩, ⟨rfl, .inr ⟨rfl, commands, plan⟩⟩, rfl, rfl⟩
  | settle result => exact .inr ⟨⟨c.id, result⟩, ⟨rfl, .inl plan⟩, rfl, rfl⟩

/-- The start loop reports commands that do not run, and none else. -/
theorem startNext_passes (s : Simulator α) :
    ∃ new : List (CompletionEvent α), s.startNext.outbox.toList = s.outbox.toList ++ new ∧
      ∀ e ∈ new, e.Passed s := by
  induction s using startNext.induct with
  | case1 s r busy =>
    rw [startNext_of_running busy]
    exact ⟨[], (List.append_nil _).symm, List.forall_mem_nil _⟩
  | case2 s idle empty =>
    rw [startNext_of_empty idle empty]
    exact ⟨[], (List.append_nil _).symm, List.forall_mem_nil _⟩
  | case3 s idle c rest next ih =>
    rw [startNext_of_next idle next]
    rcases start_cases { s with queue := rest } c with ⟨activity, -, started⟩ | ⟨e, passed, -, told⟩
    · rw [started, startNext_of_running rfl]
      exact ⟨[], (List.append_nil _).symm, List.forall_mem_nil _⟩
    · obtain ⟨new, later, others⟩ := ih
      refine ⟨e :: new, ?_, List.forall_mem_cons.2 ⟨⟨c, passed⟩, fun d mem => ?_⟩⟩
      · rw [later, told, Array.toList_push, List.append_assoc]
        rfl
      · obtain ⟨b, named, plan⟩ := others d mem
        rw [plan_start] at plan
        exact ⟨b, named, plan⟩

/-- Time that passes for a running command is one step. The command goes on, or its end is reported
and it no longer runs. -/
theorem pass_cases {s : Simulator α} {r : Running α} (busy : s.running = some r) (dt : α) :
    s.Step (s.pass dt) ∧
      ((s.pass dt).running = some (r.after (tickTime dt)) ∧ (s.pass dt).outbox = s.outbox ∨
        (s.pass dt).running = none ∧ ∃ e, (s.pass dt).outbox = s.outbox.push e) := by
  unfold pass
  split
  · next idle => cases idle.symm.trans busy
  · next _ same =>
    cases same.symm.trans busy
    dsimp only
    split
    · next stage => exact ⟨.wait dt busy stage, .inl ⟨rfl, rfl⟩⟩
    · next angles stage => exact ⟨.move dt busy stage, .inl ⟨rfl, rfl⟩⟩
    · next angles completion stage => exact ⟨.arrive (r := r) dt busy stage, .inr ⟨rfl, _, rfl⟩⟩
    · next stage => exact ⟨.elapse (r := r) dt busy stage, .inr ⟨rfl, _, rfl⟩⟩

omit [Scalar α] in
theorem Settled.empty {s : Simulator α} (settled : s.Settled) (idle : s.running = none) :
    s.queue = .empty :=
  CommandQueue.ext (settled idle)

theorem Settled.run (m : ArmModel α) (speed : α) (operations : List (Operation α)) :
    ((History.start (.withSpeed m speed)).run operations).simulator.Settled :=
  @History.run_keeps α _ (fun h => h.simulator.Settled)
    (fun _ operation settled => settled.after operation) _ (fun _ => rfl) operations

/-- Time does nothing to an arm without commands. -/
theorem tick_of_idle {s : Simulator α} (settled : s.Settled) (idle : s.running = none) (dt : α) :
    s.tick dt = s := by
  have none_waits : s.queue.pop? = none := by
    rw [settled.empty idle]
    rfl
  unfold tick advance
  rw [idle]
  exact startNext_of_empty idle none_waits

end Simulator

omit [Scalar α] in
/-- Nothing is outstanding when no command runs or waits. -/
theorem Standing.eq_nil {s : Simulator α} {issues : List (Issue α)} (standing : Standing s issues)
    (idle : s.running = none) (empty : s.queue = .empty) : issues = [] := by
  have waiting := standing.queue_of_idle idle
  rw [empty] at waiting
  exact List.forall₂_nil_left_iff.1 waiting

/-- What the start loop leaves running is the first outstanding command. Those before it have been
reported on. -/
theorem Account.resumed {s : Simulator α} {accepted : List (Command α)}
    {collected : List (CompletionEvent α)} (account : Account ⟨s, accepted, collected⟩)
    (idle : s.running = none) : History.Resumed ⟨s.startNext, accepted, collected⟩ := by
  induction s using Simulator.startNext.induct with
  | case1 s r busy => cases idle.symm.trans busy
  | case2 s idle empty =>
    have settled := Simulator.Settled.startNext s
    rw [Simulator.startNext_of_empty idle empty] at settled ⊢
    exact .inl ⟨idle, account.standing.eq_nil idle (settled.empty idle)⟩
  | case3 s idle c rest next ih =>
    rw [Simulator.startNext_of_next idle next]
    rcases Simulator.start_cases { s with queue := rest } c with
      ⟨activity, plan, started⟩ | ⟨e, -, still, -⟩
    · rw [started, Simulator.startNext_of_running rfl]
      obtain ⟨i, later, issues, head, -⟩ := account.standing.head_of_next idle next
      exact .inr ⟨c, activity, i, later, rfl, plan, issues, head⟩
    · exact ih (account.step (Simulator.step_start idle next)) (still.trans idle)

/-! ## Operations -/

namespace History

variable {h : History α} {operation : Operation α}

/-- If the operation reports any end, the next command has been taken up; and unless it aborts
commands, what it reports apart from the command that ran before are commands that do not run. -/
def Resumes (h : History α) (operation : Operation α) : Prop :=
  ∃ new, (h.after operation).emitted = h.emitted ++ new ∧
    (new ≠ [] → (h.after operation).Resumed ∧ (operation.aborts = false →
      ∀ e ∈ new.drop h.simulator.current.toList.length,
        e.Passed (h.after operation).simulator))

theorem resumes_of_silent (silent : (h.after operation).emitted = h.emitted) :
    h.Resumes operation :=
  ⟨[], silent.trans (List.append_nil _).symm, fun spoken => absurd rfl spoken⟩

/-- An operation that only leaves the start loop something to do. -/
theorem resumes_of_start {s : Simulator α} {accepted : List (Command α)}
    (after : h.after operation = ⟨s.startNext, accepted, h.collected⟩)
    (account : Account ⟨s, accepted, h.collected⟩) (idle : s.running = none)
    {first : List (CompletionEvent α)} (outbox : s.outbox.toList = h.simulator.outbox.toList ++ first)
    (length : first.length = h.simulator.current.toList.length) : h.Resumes operation := by
  obtain ⟨new, later, passed⟩ := s.startNext_passes
  refine ⟨first ++ new, ?_, fun _ => ⟨after ▸ account.resumed idle, fun _ e mem => ?_⟩⟩
  · rw [after, emitted, emitted, later, outbox, List.append_assoc, List.append_assoc]
  · rw [← length, List.drop_left] at mem
    obtain ⟨c, named, plan⟩ := passed e mem
    rw [← s.plan_startNext] at plan
    rw [after]
    exact ⟨c, named, plan⟩

theorem resumes_of_abort {t : Simulator α} (aborts : operation.aborts = true)
    (after : h.after operation = ⟨t, h.accepted, h.collected⟩)
    (account : Account (h.after operation)) (idle : t.running = none) (empty : t.queue = .empty)
    (outbox : t.outbox = h.simulator.outbox ++
      (h.simulator.pendingIds.map CompletionEvent.aborted).toArray) : h.Resumes operation := by
  rw [after] at account
  refine ⟨h.simulator.pendingIds.map CompletionEvent.aborted, ?_, fun _ => ⟨?_, fun calm => ?_⟩⟩
  · simp [after, emitted, outbox]
  · rw [after]
    exact .inl ⟨idle, account.standing.eq_nil idle empty⟩
  · cases calm.symm.trans aborts

theorem resumes_tick (account : Account h) (settled : h.simulator.Settled) (dt : α) :
    h.Resumes (.tick dt) := by
  have after {t : Simulator α} (ticked : h.simulator.tick dt = t) :
      h.after (.tick dt) = ⟨t, h.accepted, h.collected⟩ :=
    congrArg (fun s => (⟨s, h.accepted, h.collected⟩ : History α)) ticked
  have ticked := h.simulator.tick_eq dt
  cases busy : h.simulator.running with
  | none => exact resumes_of_silent (congrArg emitted
      (after (Simulator.tick_of_idle settled busy dt)))
  | some r =>
    obtain ⟨step, ⟨goes, silent⟩ | ⟨ended, e, told⟩⟩ := Simulator.pass_cases busy dt
    · rw [Simulator.startNext_of_running goes] at ticked
      refine resumes_of_silent ?_
      rw [after ticked, emitted, emitted, silent]
    · have one : [e].length = h.simulator.current.toList.length := by
        rw [Simulator.current, busy]
        rfl
      refine resumes_of_start (after ticked) (account.step step) ended ?_ one
      rw [told, Array.toList_push]

theorem resumes (account : Account h) (settled : h.simulator.Settled) (operation : Operation α) :
    h.Resumes operation := by
  cases operation with
  | enqueue c =>
    cases check : c.kind.check with
    | error e =>
      have after : h.after (.enqueue c) = h := by rw [History.after, Simulator.enqueue, check]
      exact resumes_of_silent (congrArg emitted after)
    | ok _ =>
      cases busy : h.simulator.running with
      | some r =>
        refine resumes_of_silent ?_
        rw [after_enqueue_of_running busy check, emitted, emitted]
      | none =>
        have after : h.after (.enqueue c) = ⟨Simulator.startNext
            { h.simulator with queue := h.simulator.queue.push c }, h.accepted ++ [c],
            h.collected⟩ := by
          rw [History.after, Simulator.enqueue, check]
        have none_ran : 0 = h.simulator.current.toList.length := by
          rw [Simulator.current, busy]
          rfl
        exact resumes_of_start after (account.accept c) busy (List.append_nil _).symm none_ran
  | tick dt => exact resumes_tick account settled dt
  | setSpeed value => exact resumes_of_silent rfl
  | resetPath => exact resumes_of_silent rfl
  | stop =>
    have after : h.after .stop = ⟨h.simulator.stop.1, h.accepted, h.collected⟩ := rfl
    refine resumes_of_abort rfl after (account.after .stop) ?_ ?_ ?_ <;> rw [Simulator.stop_eq]
  | hardReset =>
    have after : h.after .hardReset = ⟨h.simulator.hardReset.1, h.accepted, h.collected⟩ := rfl
    refine resumes_of_abort rfl after (account.after .hardReset) ?_ ?_ ?_ <;>
      rw [Simulator.hardReset_eq, Simulator.stop_eq]
  | drain => exact resumes_of_silent h.emitted_drain

end History

/-- In every state of every run: if no command runs, none waits, and time changes nothing and
reports nothing. An operation that reports the end of a command leaves no outstanding command, or
the first one of them running that has had no time yet; and unless it aborts commands, it reports
none apart from the one that ran before it that would run where the arm stands. -/
theorem no_idle_gap (m : ArmModel α) (speed : α) (operations : List (Operation α)) :
    let h := (History.start (.withSpeed m speed)).run operations
    (h.simulator.running = none → h.simulator.queue = .empty ∧
      ∀ dt, h.after (.tick dt) = h ∧ h.emittedBy (.tick dt) = []) ∧
    ∀ operation, h.emittedBy operation ≠ [] → (h.after operation).Resumed ∧
      (operation.aborts = false →
        ∀ e ∈ (h.emittedBy operation).drop h.simulator.current.toList.length,
          e.Passed (h.after operation).simulator) := by
  intro h
  have account : Account h := .run m speed operations
  have settled : h.simulator.Settled := .run m speed operations
  refine ⟨fun idle => ⟨settled.empty idle, fun dt => ?_⟩, fun operation spoken => ?_⟩
  · have still : h.after (.tick dt) = h :=
      congrArg (fun s => (⟨s, h.accepted, h.collected⟩ : History α))
        (Simulator.tick_of_idle settled idle dt)
    refine ⟨still, ?_⟩
    rw [History.emittedBy, still, List.drop_length]
  · obtain ⟨new, appended, resumed⟩ := History.resumes account settled operation
    have told : h.emittedBy operation = new := by
      rw [History.emittedBy, appended, List.drop_left]
    rw [told] at spoken ⊢
    exact resumed spoken

end PlanarArm
