import Mathlib.Logic.Relation
import PlanarArm.Proofs.Simulator.Issues
import PlanarArm.Simulator.Basic

/-!
# The work of a simulator, step by step

`Simulator.Step` is one step of what goes on inside a call: a waiting command is taken up while none
runs (it starts to run, is replaced by others, or ends at once), or time passes for the running
command (it goes on, moves the joints, or ends). Each constructor carries everything that the step
depends on, so that an invariant is proved by one case for each and never by unfolding a call.

* `Simulator.steps_startNext`: the start loop is a sequence of steps.
* `Simulator.steps_tick`: so is a tick.
* `Simulator.steps_of_enqueue`: a command that is taken in takes its place in the queue, and steps
  follow.

The other calls change a simulator at one stroke and need no such sequence; `Simulator.stop_eq` and
`Simulator.hardReset_eq` say what the two aborting ones leave behind.
-/

namespace PlanarArm

namespace Simulator

variable {α : Type} [Scalar α]

/-- A line is always replaced, by points between the hand and its target. -/
theorem plan_line {s : Simulator α} {c : Command α} {target : Point α} {steps : Nat}
    (line : c.kind = .lineTo target steps) :
    s.plan c = .expand (lineCommands c.id s.placement.hand target steps) := by
  rw [plan, line]

/-- One step of the work inside a call. -/
inductive Step : Simulator α → Simulator α → Prop
  | begin {s : Simulator α} {c : Command α} {rest : CommandQueue α} {activity : Activity α}
      (idle : s.running = none) (next : s.queue.pop? = some (c, rest))
      (plan : s.plan c = .run activity) :
      Step s { s with queue := rest, running := some (.begin c.id activity) }
  | replace {s : Simulator α} {c : Command α} {rest : CommandQueue α} {commands : List (Command α)}
      (idle : s.running = none) (next : s.queue.pop? = some (c, rest))
      (plan : s.plan c = .expand commands) :
      Step s ({ s with queue := rest.pushFront commands }.emit c.id (.ok .expanded))
  | settle {s : Simulator α} {c : Command α} {rest : CommandQueue α} {result : CommandResult α}
      (idle : s.running = none) (next : s.queue.pop? = some (c, rest))
      (plan : s.plan c = .settle result) :
      Step s ({ s with queue := rest }.emit c.id result)
  | wait {s : Simulator α} {r : Running α} (dt : α)
      (busy : s.running = some r) (stage : (r.after (tickTime dt)).stage = .waiting) :
      Step s { s with running := some (r.after (tickTime dt)) }
  | move {s : Simulator α} {r : Running α} {angles : JointPair α} (dt : α)
      (busy : s.running = some r) (stage : (r.after (tickTime dt)).stage = .moved angles) :
      Step s ({ s with running := some (r.after (tickTime dt)) }.place angles)
  | arrive {s : Simulator α} {r : Running α} {angles : JointPair α} {completion : Completion}
      (dt : α) (busy : s.running = some r)
      (stage : (r.after (tickTime dt)).stage = .arrived angles completion) :
      Step s (({ s with running := none }.place angles).emit r.id (.ok completion))
  | elapse {s : Simulator α} {r : Running α} (dt : α)
      (busy : s.running = some r) (stage : (r.after (tickTime dt)).stage = .elapsed) :
      Step s ({ s with running := none }.emit r.id (.ok .done))

/-- Any number of steps, one after the other. -/
abbrev Steps : Simulator α → Simulator α → Prop :=
  Relation.ReflTransGen Step

theorem Steps.keeps {holds : Simulator α → Prop}
    (step : ∀ {s t : Simulator α}, Step s t → holds s → holds t)
    {s t : Simulator α} (steps : Steps s t) (start : holds s) : holds t := by
  induction steps with
  | refl => exact start
  | tail _ last ih => exact step last ih

theorem Step.kept {s t : Simulator α} (step : Step s t) :
    t.model = s.model ∧ t.speedScale = s.speedScale := by
  cases step <;> exact ⟨rfl, rfl⟩

/-- The arm stays the same, and no step touches the speed scale. -/
theorem Steps.kept {s t : Simulator α} (steps : Steps s t) :
    t.model = s.model ∧ t.speedScale = s.speedScale := by
  induction steps with
  | refl => exact ⟨rfl, rfl⟩
  | tail _ last ih => exact ⟨last.kept.1.trans ih.1, last.kept.2.trans ih.2⟩

theorem step_start {s : Simulator α} {c : Command α} {rest : CommandQueue α}
    (idle : s.running = none) (next : s.queue.pop? = some (c, rest)) :
    Step s ({ s with queue := rest }.start c) := by
  unfold start
  cases plan : { s with queue := rest }.plan c with
  | run activity => exact .begin idle next plan
  | expand commands => exact .replace idle next plan
  | settle result => exact .settle idle next plan

theorem startNext_of_running {s : Simulator α} {r : Running α} (busy : s.running = some r) :
    s.startNext = s := by
  rw [startNext, busy]

theorem startNext_of_empty {s : Simulator α} (idle : s.running = none)
    (empty : s.queue.pop? = none) : s.startNext = s := by
  rw [startNext, idle]
  dsimp only
  split
  · rfl
  · next c rest next => cases empty.symm.trans next

theorem startNext_of_next {s : Simulator α} {c : Command α} {rest : CommandQueue α}
    (idle : s.running = none) (next : s.queue.pop? = some (c, rest)) :
    s.startNext = ({ s with queue := rest }.start c).startNext := by
  rw [startNext, idle]
  dsimp only
  split
  · next empty => cases empty.symm.trans next
  · next d rest' next' =>
    cases next.symm.trans next'
    rfl

/-- The start loop takes up commands one after the other. -/
theorem steps_startNext (s : Simulator α) : Steps s s.startNext := by
  induction s using startNext.induct with
  | case1 s r busy =>
    rw [startNext_of_running busy]
  | case2 s idle empty =>
    rw [startNext_of_empty idle empty]
  | case3 s idle c rest next ih =>
    rw [startNext_of_next idle next]
    exact .head (step_start idle next) ih

/-- Time passes for the running command, and what it leaves behind is taken up. -/
theorem steps_tick (s : Simulator α) (dt : α) : Steps s (s.tick dt) := by
  unfold tick advance
  cases busy : s.running with
  | none => exact steps_startNext s
  | some r =>
    dsimp only
    cases stage : (r.after (tickTime dt)).stage with
    | waiting => exact .single (.wait dt busy stage)
    | moved angles => exact .single (.move dt busy stage)
    | arrived angles completion =>
      exact .head (.arrive dt busy stage) (steps_startNext _)
    | elapsed => exact .head (.elapse dt busy stage) (steps_startNext _)

theorem startNext_angles (s : Simulator α) : s.startNext.angles = s.angles := by
  induction s using startNext.induct with
  | case1 s r busy => rw [startNext_of_running busy]
  | case2 s idle empty => rw [startNext_of_empty idle empty]
  | case3 s idle c rest next ih =>
    rw [startNext_of_next idle next, ih, start]
    split <;> rfl

theorem steps_of_enqueue {s t : Simulator α} {c : Command α} (accepted : s.enqueue c = .ok t) :
    Steps { s with queue := s.queue.push c } t := by
  unfold enqueue at accepted
  split at accepted
  · cases accepted
  · cases accepted
    exact steps_startNext _

theorem enqueue_of_running {s t : Simulator α} {c : Command α} {r : Running α}
    (busy : s.running = some r) (taken : s.enqueue c = .ok t) :
    t = { s with queue := s.queue.push c } := by
  unfold enqueue at taken
  split at taken
  · cases taken
  · cases taken
    exact startNext_of_running busy

/-- A command that is handed in while none runs or waits is taken up at once. -/
theorem enqueue_of_empty {s : Simulator α} {c : Command α} (idle : s.running = none)
    (empty : s.queue = .empty) (valid : c.kind.check = .ok ()) :
    s.enqueue c = .ok (s.start c).startNext := by
  have next : (s.queue.push c).pop? = some (c, s.queue) := by
    rw [empty]
    rfl
  rw [enqueue, valid]
  exact congrArg Except.ok
    (@startNext_of_next α _ { s with queue := s.queue.push c } c s.queue idle next)

/-- And so it starts, if it is one that runs. -/
theorem enqueue_of_idle {s : Simulator α} {c : Command α} {activity : Activity α}
    (idle : s.running = none) (empty : s.queue = .empty) (valid : c.kind.check = .ok ())
    (plan : s.plan c = .run activity) :
    s.enqueue c = .ok { s with running := some (.begin c.id activity) } := by
  rw [enqueue_of_empty idle empty valid, start, plan]
  exact congrArg Except.ok (startNext_of_running rfl)

/-! ## What aborting leaves behind -/

omit [Scalar α] in
theorem foldl_emit (s : Simulator α) (ids : List CommandId) (result : CommandResult α) :
    ids.foldl (fun s id => s.emit id result) s =
      { s with outbox := s.outbox ++ (ids.map fun id => ⟨id, result⟩).toArray } := by
  induction ids generalizing s with
  | nil => simp
  | cons id rest ih =>
    rw [List.foldl_cons, ih]
    simp [emit]

omit [Scalar α] in
/-- Everything that was pending is reported as aborted, in order, and nothing is pending any
more. -/
theorem stop_eq (s : Simulator α) :
    s.stop.1 = { s with
      running := none
      queue := .empty
      outbox := s.outbox ++ (s.pendingIds.map CompletionEvent.aborted).toArray } :=
  foldl_emit _ _ _

theorem hardReset_eq (s : Simulator α) :
    s.hardReset.1 = { s.stop.1 with
      angles := .home
      speedScale := s.initialSpeed
      path := .empty
      running := none } := by
  have unfolded : s.hardReset.1 = { s.stop.1 with
      angles := .home
      speedScale := s.stop.1.initialSpeed
      path := .empty
      running := none } := rfl
  rw [unfolded, stop_eq]

end Simulator

end PlanarArm
