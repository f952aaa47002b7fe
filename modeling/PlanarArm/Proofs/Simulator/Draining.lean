import Mathlib.Algebra.Order.Archimedean.Basic
import PlanarArm.Proofs.Simulator.Gap
import PlanarArm.Proofs.Simulator.Progress
import PlanarArm.Proofs.Simulator.Settled

/-!
# An arm comes to rest

In exact numbers, ticks of the same positive length that go on while a command runs come to an end,
and then every accepted command has been reported on, together with all that it was replaced by.

Ticks can lengthen the queue, since a line is replaced by many commands when its turn comes. But the
commands that a line may still be replaced by are counted in its weight from the beginning. So
`Simulator.load`, the weight of what waits and one for what runs, never grows while time passes, and
it falls with every end (`Simulator.tick_load`). Between two ends, each tick takes the same time off
what the running command has left.

* `History.comesToRest`: the ticks come to an end.
* `Account.allTold`: when nothing is outstanding, everything has been reported on.
* `always_drains`: both together, from every state of every run.
-/

namespace PlanarArm

/-! ## Load -/

namespace Simulator

variable {α : Type}

/-- The weight of the waiting commands, and one for the running command. -/
def load (s : Simulator α) : Nat :=
  s.queue.weight + s.current.toList.length

theorem load_of_idle {s : Simulator α} (idle : s.running = none) : s.load = s.queue.weight := by
  rw [load, current, idle]
  rfl

theorem load_of_busy {s : Simulator α} {r : Running α} (busy : s.running = some r) :
    s.load = s.queue.weight + 1 := by
  rw [load, current, busy]
  rfl

variable [Scalar α]

/-- Whatever starts or is replaced has been counted before. -/
theorem load_startNext_le (s : Simulator α) : s.startNext.load ≤ s.load := by
  induction s using startNext.induct with
  | case1 s r busy => rw [startNext_of_running busy]
  | case2 s idle empty => rw [startNext_of_empty idle empty]
  | case3 s idle c rest next ih =>
    rw [startNext_of_next idle next, load_of_idle idle]
    rcases start_cases { s with queue := rest } c with
      ⟨activity, -, started⟩ | ⟨e, -, still, -⟩
    · rw [started, startNext_of_running rfl, load_of_busy rfl, CommandQueue.weight_pop next]
      dsimp only
      have positive := c.weight_pos
      omega
    · have lighter : ({ s with queue := rest }.start c).load < s.queue.weight :=
        (load_of_idle (still.trans idle)).trans_lt (weight_start_lt next)
      exact ih.trans lighter.le

theorem pass_queue (s : Simulator α) (dt : α) : (s.pass dt).queue = s.queue := by
  unfold pass
  split
  · rfl
  · dsimp only
    split <;> rfl

/-- A tick that is as long as what the running command has left ends it. -/
theorem pass_ends {s : Simulator ℝ} {r : Running ℝ} {dt : ℝ} (timed : s.IsTimed)
    (busy : s.running = some r) (positive : 0 < dt) (long : r.duration ≤ r.elapsed + dt) :
    (s.pass dt).running = none := by
  have whole : max dt 0 = dt := max_eq_left positive.le
  unfold pass
  rw [busy]
  dsimp only
  obtain ⟨id, activity, elapsed⟩ := r
  cases activity with
  | motion p =>
    have under := timed id p elapsed busy
    rw [under.stage_of_le (long.trans_eq (congrArg (elapsed + ·) whole.symm))]
    rfl
  | sleep duration =>
    have past : (Running.after ⟨id, .sleep duration, elapsed⟩ (tickTime dt)).stage = .elapsed := by
      rw [tickTime_real, whole]
      exact if_pos long
    rw [past]
    rfl

/-- A tick of some length makes the load smaller, or takes its length off what the running command
has left. -/
theorem tick_load {s : Simulator ℝ} {r : Running ℝ} {dt : ℝ} (timed : s.IsTimed)
    (busy : s.running = some r) (positive : 0 < dt) :
    (s.tick dt).load < s.load ∨
      ((s.tick dt).running = some (r.after dt) ∧ (s.tick dt).load = s.load ∧
        r.elapsed + dt < r.duration) := by
  rw [tick_eq, load_of_busy busy, ← s.pass_queue dt]
  obtain ⟨-, ⟨goes, -⟩ | ⟨ended, -⟩⟩ := pass_cases busy dt
  · have short : r.elapsed + dt < r.duration := not_le.1 fun long =>
      nomatch goes.symm.trans (pass_ends timed busy positive long)
    rw [startNext_of_running goes]
    refine .inr ⟨?_, load_of_busy goes, short⟩
    rw [goes, tickTime_real, max_eq_left positive.le]
  · have lighter := (s.pass dt).load_startNext_le
    rw [load_of_idle ended] at lighter
    exact .inl (Nat.lt_succ_of_le lighter)

end Simulator

/-! ## Ticks while a command runs -/

namespace History

variable {h : History ℝ} {dt : ℝ}

/-- The history after `n` ticks of `dt` seconds. -/
noncomputable def ticks (h : History ℝ) (dt : ℝ) (n : Nat) : History ℝ :=
  h.run (List.replicate n (.tick dt))

theorem ticks_succ (h : History ℝ) (dt : ℝ) (n : Nat) :
    h.ticks dt (n + 1) = (h.after (.tick dt)).ticks dt n := by
  rw [ticks, List.replicate_succ, run_cons, ticks]

theorem accepted_ticks (h : History ℝ) (dt : ℝ) (n : Nat) :
    (h.ticks dt n).accepted = h.accepted := by
  induction n generalizing h with
  | zero => rfl
  | succ n ih =>
    rw [ticks_succ, ih]
    rfl

/-- Ticks of `dt` seconds that go on while a command runs come to an end. -/
def ComesToRest (h : History ℝ) (dt : ℝ) : Prop :=
  ∃ n, (∀ k < n, (h.ticks dt k).simulator.isBusy = true) ∧
    (h.ticks dt n).simulator.running = none

theorem comesToRest_of_idle (idle : h.simulator.running = none) : h.ComesToRest dt :=
  ⟨0, nofun, idle⟩

theorem comesToRest_of_tick {r : Running ℝ} (busy : h.simulator.running = some r)
    (later : (h.after (.tick dt)).ComesToRest dt) : h.ComesToRest dt := by
  obtain ⟨n, before, rest⟩ := later
  refine ⟨n + 1, fun k small => ?_, ?_⟩
  · cases k with
    | zero => exact Option.isSome_iff_exists.2 ⟨r, busy⟩
    | succ k =>
      rw [ticks_succ]
      exact before k (Nat.lt_of_succ_lt_succ small)
  · rw [ticks_succ]
    exact rest

/-- If ticks come to an end from every smaller load, they do while the running command is done after
some of them. -/
theorem comesToRest_of_running {n : Nat} {r : Running ℝ} (positive : 0 < dt)
    (smaller : ∀ t : History ℝ, t.simulator.IsTimed → t.simulator.load < h.simulator.load →
      t.ComesToRest dt)
    (timed : h.simulator.IsTimed) (busy : h.simulator.running = some r)
    (enough : r.duration ≤ r.elapsed + n * dt) : h.ComesToRest dt := by
  induction n generalizing h r with
  | zero =>
    rcases Simulator.tick_load timed busy positive with lighter | ⟨-, -, short⟩
    · exact comesToRest_of_tick busy (smaller _ (timed.after (.tick dt)) lighter)
    · rw [Nat.cast_zero, zero_mul, add_zero] at enough
      linarith
  | succ n ih =>
    refine comesToRest_of_tick busy ?_
    have later : (h.after (.tick dt)).simulator.IsTimed := timed.after (.tick dt)
    rcases Simulator.tick_load timed busy positive with lighter | ⟨goes, same, short⟩
    · exact smaller _ later lighter
    · refine ih (fun t timed lighter => smaller t timed (lighter.trans_eq same)) later goes ?_
      have time : r.elapsed + dt + n * dt = r.elapsed + (n + 1 : Nat) * dt := by
        push_cast
        ring
      exact enough.trans_eq time.symm

theorem comesToRest (timed : h.simulator.IsTimed) (positive : 0 < dt) : h.ComesToRest dt := by
  induction load : h.simulator.load using Nat.strong_induction_on generalizing h with
  | _ load ih =>
    cases busy : h.simulator.running with
    | none => exact comesToRest_of_idle busy
    | some r =>
      obtain ⟨n, enough⟩ := Archimedean.arch (r.duration - r.elapsed) positive
      rw [nsmul_eq_mul] at enough
      refine comesToRest_of_running positive (fun t timed lighter => ?_) timed busy
        (sub_le_iff_le_add'.1 enough)
      exact ih t.simulator.load (load ▸ lighter) timed rfl

end History

/-! ## Everything has been reported on -/

section Told

variable {α : Type} {accepted : List (Command α)} {events : List (CompletionEvent α)} {i : Issue α}

/-- What a line was replaced by are issues, too. -/
theorem Logged.parts_of_expanded (logged : Logged accepted events) {e : CompletionEvent α}
    (mem : (i, e) ∈ record accepted events) (expanded : e.isExpanded = true) {j : Issue α}
    (part : j ∈ i.origin.parts i.entry) : j ∈ issues accepted events := by
  induction logged with
  | nil => cases mem
  | @snoc events d first rest before next named line ih =>
    rw [issues_snoc next]
    rw [record_snoc next, List.mem_append, List.mem_singleton] at mem
    rcases mem with old | new
    · have known := ih old
      rw [← reported_append_outstanding, next] at known
      simp only [List.mem_append, List.mem_cons] at known ⊢
      tauto
    · cases new
      have follows : i.followers e = i.origin.parts i.entry :=
        if_pos ⟨(line expanded).1, expanded⟩
      rw [follows]
      exact List.mem_append_right _ (List.mem_append_left _ part)

/-- When nothing is outstanding, each issue has been reported on. -/
theorem Logged.told (logged : Logged accepted events) (done : outstanding accepted events = [])
    (mem : i ∈ issues accepted events) :
    ∃ e, (i, e) ∈ record accepted events ∧ e.id = i.id := by
  rw [← reported_append_outstanding, done, List.append_nil, ← map_fst_record] at mem
  obtain ⟨⟨_, e⟩, told, rfl⟩ := List.mem_map.1 mem
  exact ⟨e, told, (logged.id_of_record told).symm⟩

/-- Each accepted command has been reported on, and so has each command that it was replaced by. -/
def History.AllTold (h : History α) : Prop :=
  ∀ n c, h.accepted[n]? = some c → ∃ e, (⟨n, c, 0⟩, e) ∈ record h.accepted h.emitted ∧
    e.id = c.id ∧ (e.isExpanded = true → ∀ k < c.partCount,
      ∃ d, (⟨n, c, k + 1⟩, d) ∈ record h.accepted h.emitted ∧ d.id = c.id.sub (k + 1))

theorem Account.allTold {h : History α} (account : Account h)
    (done : outstanding h.accepted h.emitted = []) : h.AllTold := by
  intro n c found
  obtain ⟨e, told, named⟩ := account.logged.told done (mem_issues_of_accepted found h.emitted)
  refine ⟨e, told, named, fun expanded k inside => ?_⟩
  have part : (⟨n, c, k + 1⟩ : Issue α) ∈ c.parts n :=
    List.mem_map.2 ⟨k, List.mem_range.2 inside, rfl⟩
  exact account.logged.told done (account.logged.parts_of_expanded told expanded part)

end Told

/-- From every state of every run, ticks of the same positive length that go on while a command runs
come to an end. Then none waits, and each command accepted so far has been reported on, and so has
each command that it was replaced by. -/
theorem always_drains (m : ArmModel ℝ) (speed : ℝ) (operations : List (Operation ℝ)) {dt : ℝ}
    (positive : 0 < dt) :
    let h := (History.start (.withSpeed m speed)).run operations
    ∃ n, (∀ k < n, (h.ticks dt k).simulator.isBusy = true) ∧
      (h.ticks dt n).simulator.running = none ∧ (h.ticks dt n).simulator.queue = .empty ∧
      (h.ticks dt n).accepted = h.accepted ∧ (h.ticks dt n).AllTold := by
  intro h
  have timed : h.simulator.IsTimed := .run m speed operations
  obtain ⟨n, before, idle⟩ := History.comesToRest timed positive
  have run : h.ticks dt n = (History.start (.withSpeed m speed)).run
      (operations ++ List.replicate n (.tick dt)) := (History.run_append _ _ _).symm
  have settled : (h.ticks dt n).simulator.Settled := run ▸ .run m speed _
  have account : Account (h.ticks dt n) := run ▸ .run m speed _
  have empty := settled.empty idle
  exact ⟨n, before, idle, empty, h.accepted_ticks dt n,
    account.allTold (account.standing.eq_nil idle empty)⟩

/-- Two naps, of one second and of two, with ticks of half a second. -/
theorem always_drains_naps :
    let h := (History.start (.withSpeed (.standard : ArmModel ℝ) 1)).run
      [.enqueue ⟨⟨"first"⟩, .sleep 1⟩, .enqueue ⟨⟨"second"⟩, .sleep 2⟩]
    h.simulator.isBusy = true ∧ (0 : ℝ) < 1 / 2 ∧
      ∃ n, 0 < n ∧ (h.ticks (1 / 2) n).simulator.isBusy = false ∧
        (∃ e ∈ (h.ticks (1 / 2) n).emitted, e.id = ⟨"first"⟩) ∧
        ∃ e ∈ (h.ticks (1 / 2) n).emitted, e.id = ⟨"second"⟩ := by
  intro h
  have valid (id : String) (seconds : ℝ) :
      (⟨⟨id⟩, .sleep seconds⟩ : Command ℝ).kind.check = .ok () := by
    simp [CommandKind.check, CommandKind.fault?, CommandKind.numbers]
  let s : Simulator ℝ := .withSpeed .standard 1
  let t : Simulator ℝ := { s with
    running := some (.begin ⟨"first"⟩ (.sleep (Scalar.maxNum 1 0.0))) }
  have begun : (History.start s).after (.enqueue ⟨⟨"first"⟩, .sleep 1⟩) =
      ⟨t, [⟨⟨"first"⟩, .sleep 1⟩], []⟩ :=
    History.after_enqueue_of_idle rfl rfl (valid "first" 1) rfl
  have reached : h = ⟨{ t with queue := t.queue.push ⟨⟨"second"⟩, .sleep 2⟩ },
      [⟨⟨"first"⟩, .sleep 1⟩, ⟨⟨"second"⟩, .sleep 2⟩], []⟩ :=
    (congrArg (fun h => h.after (.enqueue ⟨⟨"second"⟩, .sleep 2⟩)) begun).trans
      (History.after_enqueue_of_running rfl (valid "second" 2))
  have busy : h.simulator.isBusy = true := by
    rw [reached]
    rfl
  have positive : (0 : ℝ) < 1 / 2 := by norm_num
  obtain ⟨n, -, idle, -, accepted, told⟩ := always_drains .standard 1
    [.enqueue ⟨⟨"first"⟩, .sleep 1⟩, .enqueue ⟨⟨"second"⟩, .sleep 2⟩] positive
  have commands : (h.ticks (1 / 2) n).accepted =
      [⟨⟨"first"⟩, .sleep 1⟩, ⟨⟨"second"⟩, .sleep 2⟩] :=
    accepted.trans (congrArg History.accepted reached)
  refine ⟨busy, positive, n, Nat.pos_of_ne_zero ?_, ?_, ?_, ?_⟩
  · rintro rfl
    exact absurd (Option.isSome_iff_ne_none.1 busy) (not_not.2 idle)
  · exact Option.isSome_eq_false_iff.2 (Option.isNone_iff_eq_none.2 idle)
  · obtain ⟨e, mem, named, -⟩ := told 0 ⟨⟨"first"⟩, .sleep 1⟩ (by rw [commands]; rfl)
    exact ⟨e, (List.of_mem_zip mem).2, named⟩
  · obtain ⟨e, mem, named, -⟩ := told 1 ⟨⟨"second"⟩, .sleep 2⟩ (by rw [commands]; rfl)
    exact ⟨e, (List.of_mem_zip mem).2, named⟩

end PlanarArm
