import PlanarArm.Proofs.Session.TakingUp

/-!
# Sleeps against the clock

A sleep that runs has been taken up by some action, and it has run for the time that the frames have
let pass since (`Journal.exists_sleeps`). A frame that lets enough time pass ends it, and apart from
aborts nothing else does (`Journal.Sleeps.early`, `Journal.Sleeps.ends`).

## Main results

* `sleep_keeps_time`: all of it together, and that no sleep is ahead of the clock on the wall.
-/

namespace PlanarArm

/-! ## How a sleep goes on -/

namespace Simulator

variable {s : Simulator ℝ} {id : CommandId} {duration elapsed dt : ℝ}

theorem stage_of_sleep (id : CommandId) (duration elapsed : ℝ) :
    (⟨id, .sleep duration, elapsed⟩ : Running ℝ).stage =
      if duration ≤ elapsed then .elapsed else .waiting :=
  rfl

/-- As long as its time is not over, a sleep goes on, and nothing else happens. -/
theorem tick_of_early (busy : s.running = some ⟨id, .sleep duration, elapsed⟩) (nonneg : 0 ≤ dt)
    (early : elapsed + dt < duration) :
    s.tick dt = { s with running := some ⟨id, .sleep duration, elapsed + dt⟩ } := by
  have waits : (⟨id, .sleep duration, elapsed + dt⟩ : Running ℝ).stage = .waiting := by
    rw [stage_of_sleep, if_neg (not_le.2 early)]
  rw [tick, tickTime_of_nonneg nonneg, advance, busy]
  dsimp only [Running.after]
  rw [waits]

/-- When its time is over, its end is the first thing that is reported. -/
theorem tick_of_due (busy : s.running = some ⟨id, .sleep duration, elapsed⟩) (nonneg : 0 ≤ dt)
    (due : duration ≤ elapsed + dt) :
    ∃ others, (s.tick dt).outbox.toList = s.outbox.toList ++ ⟨id, .ok .done⟩ :: others := by
  have ended : (⟨id, .sleep duration, elapsed + dt⟩ : Running ℝ).stage = .elapsed := by
    rw [stage_of_sleep, if_pos due]
  rw [tick, tickTime_of_nonneg nonneg, advance, busy]
  dsimp only [Running.after]
  rw [ended]
  dsimp only [finish]
  obtain ⟨others, told, -⟩ := startNext_passes ({ s with running := none }.emit id (.ok .done))
  refine ⟨others, told.trans ?_⟩
  rw [emit, Array.toList_push, List.append_assoc, List.singleton_append]

end Simulator

namespace Journal.Quiet

variable {j : Journal ℝ} {id : CommandId} {duration elapsed : ℝ}

/-- What a frame broadcasts is what its tick reports. -/
theorem reports_frame {α : Type} [Scalar α] {j : Journal α} (quiet : j.Quiet) (now : Nat) :
    reports (j.after (.frame now)).effects = reports j.effects ++
      (j.session.simulator.tick (j.session.clock.step now).1).outbox.toList := by
  rw [(quiet.after (.frame now)).reports_eq, Journal.after, Session.operations, History.run_cons,
    History.run_cons, History.run_nil, History.emitted_drain, ← quiet.told, ← quiet.same]
  rfl

/-- As long as its time is not over, a frame lets a sleep go on, and nothing is broadcast. -/
theorem sleep_frame (quiet : j.Quiet)
    (busy : j.session.simulator.running = some ⟨id, .sleep duration, elapsed⟩) {now : Nat}
    (nonneg : 0 ≤ (j.session.clock.step now).1)
    (early : elapsed + (j.session.clock.step now).1 < duration) :
    (j.after (.frame now)).session.simulator.running =
        some ⟨id, .sleep duration, elapsed + (j.session.clock.step now).1⟩ ∧
      reports (j.after (.frame now)).effects = reports j.effects := by
  have tick := Simulator.tick_of_early busy nonneg early
  refine ⟨congrArg Simulator.running tick, ?_⟩
  rw [quiet.reports_frame, tick, quiet.empty]
  exact List.append_nil _

/-- When its time is over, the end of a sleep is the first thing that a frame broadcasts. -/
theorem sleep_over (quiet : j.Quiet)
    (busy : j.session.simulator.running = some ⟨id, .sleep duration, elapsed⟩) {now : Nat}
    (nonneg : 0 ≤ (j.session.clock.step now).1)
    (due : duration ≤ elapsed + (j.session.clock.step now).1) :
    ∃ others, reports (j.after (.frame now)).effects =
      reports j.effects ++ ⟨id, .ok .done⟩ :: others := by
  obtain ⟨others, told⟩ := Simulator.tick_of_due busy nonneg due
  refine ⟨others, ?_⟩
  rw [quiet.reports_frame, told, quiet.empty]
  rfl

/-- Whatever else happens without an abort, a sleep stays as it is, and nothing is broadcast. -/
theorem sleep_beside (quiet : j.Quiet)
    (busy : j.session.simulator.running = some ⟨id, .sleep duration, elapsed⟩)
    {action : Action ℝ} (still : instants [action] = []) (calm : action.aborts = false) :
    (j.after action).session.simulator.running = some ⟨id, .sleep duration, elapsed⟩ ∧
      reports (j.after action).effects = reports j.effects := by
  cases action with
  | frame now => cases still
  | request r =>
    cases r with
    | submit c ticket =>
      cases verdict : j.session.refusal? c with
      | some e =>
        have step := Session.step_of_refusal verdict ticket
        refine ⟨?_, ?_⟩
        · rw [Journal.after, step]
          exact busy
        · rw [Journal.after, step, reports_append]
          exact List.append_nil _
      | none =>
        obtain ⟨t, allowed, enqueued, -⟩ := Session.submit_of_accepted verdict ticket
        have waits := Simulator.enqueue_of_running busy enqueued
        refine ⟨?_, ?_⟩
        · rw [Journal.after, Session.step_submit allowed enqueued, waits]
          exact busy
        · rw [(quiet.after (.request (.submit c ticket))).reports_eq,
            (Journal.after_of_taken verdict ticket).2.1, History.emitted_drain, History.emitted,
            History.after, quiet.same, enqueued, waits, quiet.told]
          dsimp only
          rw [quiet.empty]
          exact List.append_nil _
    | setSpeed value =>
      refine ⟨?_, ?_⟩
      · show j.session.simulator.running.map _ = _
        rw [busy, Option.map_some, Running.retime_of_sleep rfl]
      · exact (reports_append _ _).trans (List.append_nil _)
    | resetPath => exact ⟨busy, (reports_append _ _).trans (List.append_nil _)⟩
    | stop ack => cases calm
    | hardReset ack => cases calm
  | finish => cases calm

end Journal.Quiet

/-- The action after `first` takes up a command to sleep, and nothing of what happens later aborts
it. -/
structure Journal.Sleeps (j : Journal ℝ) (first : List (Action ℝ)) (starter : Action ℝ)
    (later : List (Action ℝ)) (c : Command ℝ) (seconds : ℝ) : Prop where
  taken : ∃ activity, (j.run first).session.takesUp? starter = some (c, activity)
  kind : c.kind = .sleep seconds
  calm : ∀ action ∈ later, action.aborts = false

namespace Journal

variable {j : Journal ℝ} {first later : List (Action ℝ)} {starter : Action ℝ} {c : Command ℝ}
  {seconds : ℝ}

namespace Sleeps

theorem running (sleeps : j.Sleeps first starter later c seconds) :
    (j.run (first ++ [starter])).session.simulator.running =
      some ⟨c.id, .sleep (max seconds 0), 0⟩ := by
  obtain ⟨activity, taken⟩ := sleeps.taken
  obtain ⟨u, -, found⟩ := Option.bind_eq_some_iff.1 taken
  have plan : u.plan c = .run (.sleep (max seconds 0)) :=
    Simulator.plan_sleep_iff.2 ⟨seconds, sleeps.kind, by rw [Scalar.maxNum_real, Scalar.zero_real]⟩
  obtain rfl : activity = .sleep (max seconds 0) := by
    cases plan.symm.trans (Simulator.plan_of_takesUp found)
    rfl
  rw [run_append, run_cons, run_nil]
  exact (Session.running_of_takesUp taken).trans (by rw [Running.begin, Scalar.zero_real])

/-- The clock has only seen frames since the sleep was taken up. -/
theorem clock (sleeps : j.Sleeps first starter later c seconds) :
    (j.run (first ++ starter :: later)).session.clock =
      (j.run (first ++ [starter])).session.clock.through (instants later) := by
  rw [List.append_cons, run_append]
  exact clock_run_of_calm sleeps.calm

theorem passed_snoc (sleeps : j.Sleeps first starter later c seconds) (now : Nat) :
    (j.run (first ++ [starter])).session.clock.passed (instants later ++ [now]) =
      (j.run (first ++ [starter])).session.clock.passed (instants later) +
        ((j.run (first ++ starter :: later)).session.clock.step now).1 := by
  rw [FrameClock.passed_snoc, sleeps.clock]

/-- As long as the frames since its start have not let enough time pass, a sleep runs and has had
that time, and nothing is broadcast. -/
theorem early (fresh : j.Fresh) (sleeps : j.Sleeps first starter later c seconds)
    (below : (j.run (first ++ [starter])).session.clock.StaysBelow (instants later)
      (max seconds 0)) :
    (j.run (first ++ starter :: later)).session.simulator.running =
        some ⟨c.id, .sleep (max seconds 0),
          (j.run (first ++ [starter])).session.clock.passed (instants later)⟩ ∧
      reports (j.run (first ++ starter :: later)).effects =
        reports (j.run (first ++ [starter])).effects := by
  induction later using List.reverseRecOn with
  | nil => exact ⟨sleeps.running, rfl⟩
  | append_singleton later action ih =>
    obtain ⟨calm, last⟩ := List.forall_mem_append.1 sleeps.calm
    have earlier : j.Sleeps first starter later c seconds := ⟨sleeps.taken, sleeps.kind, calm⟩
    have quiet := fresh.quiet_run (first ++ starter :: later)
    rw [instants_append] at below ⊢
    rw [← List.cons_append, ← List.append_assoc, run_append, run_cons, run_nil]
    cases moments : instants [action] with
    | nil =>
      rw [moments, List.append_nil] at below
      obtain ⟨busy, silent⟩ := ih earlier below
      obtain ⟨stays, nothing⟩ := quiet.sleep_beside busy moments (last action List.mem_cons_self)
      rw [List.append_nil]
      exact ⟨stays, nothing.trans silent⟩
    | cons now rest =>
      obtain ⟨rfl, rfl⟩ := eq_frame_of_instants moments
      rw [moments, FrameClock.staysBelow_snoc, earlier.passed_snoc] at below
      obtain ⟨busy, silent⟩ := ih earlier below.1
      obtain ⟨goes, nothing⟩ := quiet.sleep_frame busy (fresh.step_nonneg _ now) below.2
      rw [earlier.passed_snoc]
      exact ⟨goes, nothing.trans silent⟩

/-- The first frame that lets enough time pass ends the sleep. -/
theorem ends (fresh : j.Fresh) (sleeps : j.Sleeps first starter later c seconds)
    (below : (j.run (first ++ [starter])).session.clock.StaysBelow (instants later)
      (max seconds 0)) {now : Nat}
    (due : max seconds 0 ≤
      (j.run (first ++ [starter])).session.clock.passed (instants later ++ [now])) :
    ∃ others, reports (j.run (first ++ starter :: later ++ [.frame now])).effects =
      reports (j.run (first ++ starter :: later)).effects ++ ⟨c.id, .ok .done⟩ :: others := by
  have quiet := fresh.quiet_run (first ++ starter :: later)
  rw [sleeps.passed_snoc] at due
  rw [run_append, run_cons, run_nil]
  exact quiet.sleep_over (sleeps.early fresh below).1 (fresh.step_nonneg _ now) due

end Sleeps

/-- A sleep that runs has been taken up by some action. Since then nothing has been aborted, and it
has run for the time that the frames have let pass. -/
theorem Fresh.exists_start (fresh : j.Fresh) {actions : List (Action ℝ)} {id : CommandId}
    {duration elapsed : ℝ}
    (runs : (j.run actions).session.simulator.running = some ⟨id, .sleep duration, elapsed⟩) :
    ∃ first starter later c, actions = first ++ starter :: later ∧
      (j.run first).session.takesUp? starter = some (c, .sleep duration) ∧
      c.id = id ∧ (∀ action ∈ later, action.aborts = false) ∧
      elapsed = (j.run (first ++ [starter])).session.clock.passed (instants later) := by
  induction actions using List.reverseRecOn generalizing elapsed with
  | nil => cases fresh.idle.symm.trans runs
  | append_singleton actions action ih =>
    rw [run_append, run_cons, run_nil] at runs
    cases taken : (j.run actions).session.takesUp? action with
    | some found =>
      obtain ⟨c, activity⟩ := found
      cases (Session.running_of_takesUp taken).symm.trans runs
      exact ⟨actions, action, [], c, rfl, taken, rfl, by simp, Scalar.zero_real⟩
    | none =>
      obtain ⟨calm, r, busy, alternatives⟩ := Session.running_of_kept taken runs
      have before : ∃ past, r = ⟨id, .sleep duration, past⟩ ∧
          elapsed = past + (j.run actions).session.clock.passed (instants [action]) := by
        rcases alternatives with ⟨now, rfl, longer⟩ | ⟨still, same | ⟨scale, retimed⟩⟩
        · rw [Simulator.tickTime_of_nonneg (fresh.step_nonneg actions now)] at longer
          obtain ⟨own, activity, past⟩ := r
          cases longer
          exact ⟨past, rfl, congrArg (past + ·) (add_zero _).symm⟩
        · exact ⟨elapsed, same.symm, by rw [still, FrameClock.passed, add_zero]⟩
        · exact ⟨elapsed, Running.sleep_of_retime retimed.symm, by
            rw [still, FrameClock.passed, add_zero]⟩
      obtain ⟨past, rfl, rfl⟩ := before
      obtain ⟨first, starter, later, c, rfl, took, named, quiet, rfl⟩ := ih busy
      refine ⟨first, starter, later ++ [action], c, by simp, took, named, ?_, ?_⟩
      · simpa [or_imp, forall_and] using ⟨quiet, calm⟩
      · rw [instants_append, FrameClock.passed_append, ← clock_run_of_calm quiet, ← run_append,
          List.append_assoc, List.singleton_append]

theorem Fresh.exists_sleeps (fresh : j.Fresh) {actions : List (Action ℝ)} {id : CommandId}
    {duration elapsed : ℝ}
    (runs : (j.run actions).session.simulator.running = some ⟨id, .sleep duration, elapsed⟩) :
    ∃ first starter later c seconds, actions = first ++ starter :: later ∧
      j.Sleeps first starter later c seconds ∧ c.id = id ∧ duration = max seconds 0 ∧
      elapsed = (j.run (first ++ [starter])).session.clock.passed (instants later) := by
  obtain ⟨first, starter, later, c, split, taken, named, calm, time⟩ := fresh.exists_start runs
  obtain ⟨u, -, found⟩ := Option.bind_eq_some_iff.1 taken
  obtain ⟨seconds, kind, rfl⟩ := Simulator.plan_sleep_iff.1 (Simulator.plan_of_takesUp found)
  rw [Scalar.maxNum_real, Scalar.zero_real]
  exact ⟨first, starter, later, c, seconds, split, ⟨⟨_, taken⟩, kind, calm⟩, named, rfl, time⟩

end Journal

/-- The time of a session whose frames come in order. Each frame lets the simulator go on for a time
that is within the limit of the clock and no longer than what has gone by since the frame before it.
So a sleep that runs has never run for longer than what has gone by since the last frame up to its
start, or since the first frame of all. If it is not aborted, it ends with the first frame at which
the frames since its start have let enough time pass, and not before, whatever else happens; another
speed makes no difference. -/
theorem sleep_keeps_time (m : ArmModel ℝ) (speed maxStep : ℝ) {actions : List (Action ℝ)}
    (forward : (instants actions).Pairwise (· ≤ ·)) :
    let j := Journal.start m speed maxStep
    (∀ before now rest, actions = before ++ .frame now :: rest →
      let dt := ((j.run before).session.clock.step now).1
      FrameTime (FrameClock.create maxStep).maxStep before now dt ∧
        (j.run (before ++ [.frame now])).session.simulator =
          ((j.run before).session.simulator.advance dt).drain.2) ∧
    (∀ id duration elapsed,
      (j.run actions).session.simulator.running = some ⟨id, .sleep duration, elapsed⟩ →
      ∃ first starter later c seconds, actions = first ++ starter :: later ∧
        j.Sleeps first starter later c seconds ∧ c.id = id ∧ duration = max seconds 0 ∧
        elapsed = (j.run (first ++ [starter])).session.clock.passed (instants later) ∧
        ∀ base latest : Nat,
          (instants (first ++ [starter])).getLast?.or (instants actions).head? = some base →
          (∀ now ∈ instants actions, now ≤ latest) → elapsed ≤ ((latest : ℝ) - base) / 10 ^ 9) ∧
    ∀ first starter later c seconds, actions = first ++ starter :: later →
      j.Sleeps first starter later c seconds →
      let clock := (j.run (first ++ [starter])).session.clock
      clock.StaysBelow (instants later) (max seconds 0) →
      (j.run actions).session.simulator.running =
          some ⟨c.id, .sleep (max seconds 0), clock.passed (instants later)⟩ ∧
        reports (j.run actions).effects = reports (j.run (first ++ [starter])).effects ∧
        (∀ now, max seconds 0 ≤ clock.passed (instants later ++ [now]) →
          ∃ others, reports (j.run (actions ++ [.frame now])).effects =
            reports (j.run actions).effects ++ ⟨c.id, .ok .done⟩ :: others) ∧
        ∀ value, (j.run (actions ++ [.request (.setSpeed value)])).session.simulator.running =
            (j.run actions).session.simulator.running ∧
          (j.run (actions ++ [.request (.setSpeed value)])).session.clock =
            (j.run actions).session.clock := by
  intro j
  have fresh : j.Fresh := Journal.fresh_start m speed maxStep
  refine ⟨?_, ?_, ?_⟩
  · rintro before now rest rfl
    rw [instants_append] at forward
    have later : ∀ last ∈ instants before, last ≤ now := fun last mem =>
      (List.pairwise_append.1 forward).2.2 last mem now List.mem_cons_self
    refine ⟨fresh.frameTime later, ?_⟩
    rw [Journal.run_append, Journal.run_cons, Journal.run_nil]
    exact fresh.simulator_frame before now
  · intro id duration elapsed runs
    obtain ⟨first, starter, later, c, seconds, rfl, sleeps, named, long, time⟩ :=
      fresh.exists_sleeps runs
    refine ⟨first, starter, later, c, seconds, rfl, sleeps, named, long, time, ?_⟩
    have parts : first ++ starter :: later = first ++ [starter] ++ later := List.append_cons _ _ _
    rw [parts] at forward ⊢
    intro base latest since ended
    rw [time]
    exact fresh.passed_le forward since ended
  · rintro first starter later c seconds rfl sleeps clock below
    obtain ⟨runs, silent⟩ := sleeps.early fresh below
    refine ⟨runs, silent, fun now due => sleeps.ends fresh below due, fun value => ?_⟩
    rw [Journal.run_append, Journal.run_cons, Journal.run_nil]
    refine ⟨?_, Journal.clock_after_of_calm rfl⟩
    rw [runs]
    exact ((fresh.quiet_run _).sleep_beside runs rfl rfl).1

/-- A nap of 60 milliseconds with frames every 50 milliseconds. The first of them lets no time pass,
so that the nap ends with the third one. -/
theorem sleep_keeps_time_nap :
    let j : Journal ℝ := .start .standard 1 0.1
    let nap : List (Action ℝ) :=
      [.request (.submit ⟨⟨"nap"⟩, .sleep 0.06⟩ 0), .frame 0, .frame 50000000]
    (instants nap).Pairwise (· ≤ ·) ∧
      (j.run nap).session.simulator.running = some ⟨⟨"nap"⟩, .sleep 0.06, 0.05⟩ ∧
      ∃ others, reports (j.run (nap ++ [.frame 100000000])).effects =
        reports (j.run nap).effects ++ ⟨⟨"nap"⟩, .ok .done⟩ :: others := by
  intro j nap
  have forward : (instants nap).Pairwise (· ≤ ·) := by simp [nap, instants]
  have valid : (CommandKind.sleep (0.06 : ℝ)).check = .ok () := by
    simp [CommandKind.check, CommandKind.fault?, CommandKind.numbers]
  have free : j.session.refusal? ⟨⟨"nap"⟩, .sleep 0.06⟩ = none :=
    Session.refusal?_of_ok (by decide) (Simulator.enqueue_of_idle rfl rfl valid rfl)
  have sleeps : j.Sleeps [] (.request (.submit ⟨⟨"nap"⟩, .sleep 0.06⟩ 0))
      [.frame 0, .frame 50000000] ⟨⟨"nap"⟩, .sleep 0.06⟩ 0.06 := by
    refine ⟨⟨.sleep (Scalar.maxNum 0.06 0.0), ?_⟩, rfl, by simp [Action.aborts]⟩
    rw [Journal.run_nil, Session.takesUp?, Session.starting?, free, Option.bind_some]
    exact @Simulator.takesUp?_of_next ℝ _ _ ⟨⟨"nap"⟩, .sleep 0.06⟩ .empty rfl rfl
  have clock : (j.run ([] ++ [.request (.submit ⟨⟨"nap"⟩, .sleep 0.06⟩ 0)])).session.clock =
      ⟨none, 0.1⟩ :=
    (Journal.clock_run_of_calm (by simp [Action.aborts, Request.aborts])).trans
      (FrameClock.create_of_pos (by norm_num))
  have first : (⟨none, 0.1⟩ : FrameClock ℝ).passed [0] = 0 := by
    norm_num [FrameClock.passed, FrameClock.step_real]
  have second : (⟨none, 0.1⟩ : FrameClock ℝ).passed [0, 50000000] = 0.05 := by
    norm_num [FrameClock.passed, FrameClock.step_real, FrameClock.step_snd]
  have third : (⟨none, 0.1⟩ : FrameClock ℝ).passed [0, 50000000, 100000000] = 0.1 := by
    norm_num [FrameClock.passed, FrameClock.step_real, FrameClock.step_snd]
  obtain ⟨-, -, ends⟩ := sleep_keeps_time .standard 1 0.1 forward
  have long : max (0.06 : ℝ) 0 = 0.06 := max_eq_left (by norm_num)
  have below : (⟨none, 0.1⟩ : FrameClock ℝ).StaysBelow ([] ++ [0] ++ [50000000]) (max 0.06 0) := by
    rw [long]
    refine FrameClock.staysBelow_snoc.2 ⟨FrameClock.staysBelow_snoc.2 ⟨?_, ?_⟩, ?_⟩
    · exact fun early nonempty start => absurd (List.prefix_nil.1 start) nonempty
    · exact first.trans_lt (by norm_num)
    · exact second.trans_lt (by norm_num)
  obtain ⟨runs, -, done, -⟩ := ends [] _ _ _ _ rfl sleeps (clock ▸ below)
  rw [long, clock] at runs done
  refine ⟨forward, runs.trans (by rw [← second]; rfl), done 100000000 ?_⟩
  show (0.06 : ℝ) ≤ FrameClock.passed _ [0, 50000000, 100000000]
  rw [third]
  norm_num

end PlanarArm
