import PlanarArm.Proofs.Arm.Model
import PlanarArm.Proofs.Simulator.Order
import PlanarArm.Proofs.Simulator.Progress
import PlanarArm.Proofs.Simulator.Running
import PlanarArm.Proofs.Simulator.Watch

/-!
# Reports are true

When the end of a command is reported, the report says what has become of the arm: it is what the
command asks for (`Command.Fulfilled`), given the joint angles when its turn came. The reason is
that the plan of a command settles its ending at once (`Simulator.plan_fulfilled`), and nothing
that happens afterwards changes the ending, short of an abort.

* `Running.ending_retime`, `Running.ending_of_moved`: the ending of a running command is the same
  at another speed and on the way.
* `Watch.Sound.turn`, `Watch.Sound.pass`, `Watch.Sound.after`: what is seen stays true.
* `completions_truthful`: whatever is seen in a run is true, and whatever is reported is seen.
-/

namespace PlanarArm

variable {α : Type}

/-! ## Endings -/

/-- How a command ends, and where the joints are then. -/
structure Ending (α : Type) where
  /-- The result of the command. -/
  result : CommandResult α
  /-- The joint angles. -/
  angles : JointPair α

def Sighting.ending (x : Sighting α) : Ending α :=
  ⟨x.event.result, x.finish⟩

/-- How a command ends that was started with the joints at `angles`, unless it is aborted. -/
def Activity.ending (activity : Activity α) (angles : JointPair α) : Ending α :=
  match activity with
  | .motion p => ⟨.ok p.completion, p.target⟩
  | .sleep _ => ⟨.ok .done, angles⟩

@[simp]
theorem Activity.ending_motion (p : Motion α) (angles : JointPair α) :
    (Activity.motion p).ending angles = ⟨.ok p.completion, p.target⟩ := rfl

/-- How a command ends that starts like that with the joints at `angles`, unless it is aborted. -/
def Start.ending (start : Start α) (angles : JointPair α) : Ending α :=
  match start with
  | .run activity => activity.ending angles
  | .expand _ => ⟨.ok .expanded, angles⟩
  | .settle result => ⟨result, angles⟩

variable [Scalar α]

/-- The ending is what the command asks of an arm with the joints at `start`. -/
def Command.Fulfilled (c : Command α) (m : ArmModel α) (start : JointPair α)
    (ending : Ending α) : Prop :=
  match c.kind with
  | .home => ending = ⟨.ok .done, .home⟩
  | .setJoints degrees =>
    ∃ target, m.clamp? (degrees.map Scalar.ofDegrees) = some target ∧ ending = ⟨.ok .done, target⟩
  | .moveTo target =>
    match inverse m target with
    | .ok solution => ending = ⟨.ok (.reached solution.branch), solution.angles⟩
    | .error e => ending = ⟨.error e, start⟩
  | .sleep _ => ending = ⟨.ok .done, start⟩
  | .lineTo _ _ => ending = ⟨.ok .expanded, start⟩
  | .unknown name => ending = ⟨.error (.unknownCommand name), start⟩

/-- The plan of a command is what the command asks for. -/
theorem Simulator.plan_fulfilled [Scalar.FiniteTotal α] {s : Simulator α}
    (accepted : s.model.Accepted) (c : Command α) :
    c.Fulfilled s.model s.angles ((s.plan c).ending s.angles) := by
  unfold Command.Fulfilled Simulator.plan
  cases c.kind with
  | home => rfl
  | setJoints degrees =>
    obtain ⟨target, clamped⟩ := accepted.clamp (degrees.map Scalar.ofDegrees)
    dsimp only
    rw [clamped]
    exact ⟨target, rfl, rfl⟩
  | moveTo target =>
    dsimp only
    cases inverse s.model target <;> rfl
  | sleep seconds => rfl
  | lineTo target steps => rfl
  | unknown name => rfl

namespace Running

variable {r : Running α}

theorem ending_retime (m : ArmModel α) (scale : α) (angles : JointPair α) :
    (r.retime m scale).activity.ending angles = r.activity.ending angles := by
  cases activity : r.activity with
  | motion p =>
    obtain ⟨q, retimed, -, target, branch⟩ := retime_of_motion activity m scale
    rw [retimed, Activity.ending_motion, Activity.ending_motion, Motion.completion, target,
      branch, Motion.completion]
  | sleep duration => rw [retime_of_sleep activity, activity]

/-- A command that moves the joints ends the same, wherever they are on the way. -/
theorem ending_of_moved {angles : JointPair α} (stage : r.stage = .moved angles)
    (before : JointPair α) : r.activity.ending angles = r.activity.ending before := by
  obtain ⟨p, -, motion, -⟩ := motion_of_moved stage
  rw [motion]
  rfl

theorem ending_of_arrived {angles : JointPair α} {completion : Completion}
    (stage : r.stage = .arrived angles completion) (before : JointPair α) :
    r.activity.ending before = ⟨.ok completion, angles⟩ := by
  obtain ⟨p, motion, rfl, rfl⟩ := motion_of_arrived stage
  rw [motion]
  rfl

theorem ending_of_elapsed (stage : r.stage = .elapsed) (before : JointPair α) :
    r.activity.ending before = ⟨.ok .done, before⟩ := by
  obtain ⟨duration, sleep⟩ := sleep_of_elapsed stage
  rw [sleep]
  rfl

end Running

/-! ## What is seen -/

def CompletionEvent.isAborted {α : Type} (e : CompletionEvent α) : Bool :=
  match e.result with
  | .error .stopped => true
  | _ => false

omit [Scalar α] in
theorem CompletionEvent.isAborted_of_ne {e : CompletionEvent α}
    (plain : e.result ≠ .error .stopped) : e.isAborted = false := by
  unfold isAborted
  split
  · next stopped => exact absurd stopped plain
  · rfl

/-- The report bears the identifier of the command, and says what has become of the arm. -/
structure Sighting.Truthful (x : Sighting α) (m : ArmModel α) : Prop where
  named : x.event.id = x.command.id
  fulfilled : x.command.Fulfilled m x.start x.ending

namespace Watch

variable {w : Watch α} {c : Command α}

/-- The command was accepted, or it is one of those that replaced a line where the line was seen
to end. -/
def Knows (w : Watch α) (c : Command α) : Prop :=
  c ∈ w.accepted ∨ ∃ x ∈ w.sightings, ∃ target steps, x.command.kind = .lineTo target steps ∧
    c ∈ lineCommands x.command.id (forward w.simulator.model x.finish).hand target steps

/-- The command in charge runs, and it will end as it should with the joints where they are now. -/
structure InCharge (w : Watch α) (r : Running α) (charge : Command α × JointPair α) : Prop where
  known : w.Knows charge.1
  named : r.id = charge.1.id
  fulfilled : charge.1.Fulfilled w.simulator.model charge.2 (r.activity.ending w.simulator.angles)

/-- Everything that was seen is true, nothing but aborts was missed, and what runs and waits is
known. -/
structure Sound (w : Watch α) : Prop where
  complete : w.sightings.map Sighting.event = w.emitted.filter fun e => !e.isAborted
  truthful : ∀ x ∈ w.sightings, x.Truthful w.simulator.model ∧ w.Knows x.command
  running : ∀ r, w.simulator.running = some r →
    ∃ charge, w.active = some charge ∧ w.InCharge r charge
  waiting : ∀ c ∈ w.simulator.queue.toList, w.Knows c

theorem Knows.mono {v : Watch α} (known : w.Knows c) (accepted : w.accepted ⊆ v.accepted)
    (seen : w.sightings ⊆ v.sightings) (model : v.simulator.model = w.simulator.model) :
    v.Knows c := by
  obtain own | ⟨x, mem, target, steps, kind, part⟩ := known
  · exact .inl (accepted own)
  · rw [← model] at part
    exact .inr ⟨x, seen mem, target, steps, kind, part⟩

/-! ### Steps -/

section Steps

variable {start : JointPair α} {t : Simulator α}

omit [Scalar α] in
theorem saw_quiet (quiet : t.outbox = w.simulator.outbox) :
    (w.saw c start t).sightings = w.sightings := by
  simp [saw, quiet]

omit [Scalar α] in
theorem saw_report {e : CompletionEvent α} (report : t.outbox = w.simulator.outbox.push e) :
    (w.saw c start t).sightings = w.sightings ++ [⟨c, start, e, t.angles⟩] := by
  simp [saw, report]

omit [Scalar α] in
theorem sightings_subset_saw : w.sightings ⊆ (w.saw c start t).sightings :=
  List.subset_append_left _ _

theorem Knows.saw {d : Command α} (known : w.Knows d) (model : t.model = w.simulator.model) :
    (w.saw c start t).Knows d :=
  known.mono (List.Subset.refl _) sightings_subset_saw model

/-- What replaces a line is known once the line is seen to end. -/
theorem knows_part {d : Command α} {e : CompletionEvent α} {target : Point α} {steps : Nat}
    (report : t.outbox = w.simulator.outbox.push e) (kind : c.kind = .lineTo target steps)
    (part : d ∈ lineCommands c.id (forward t.model t.angles).hand target steps) :
    (w.saw c start t).Knows d := by
  refine .inr ⟨⟨c, start, e, t.angles⟩, ?_, target, steps, kind, part⟩
  rw [saw_report report]
  exact List.mem_append_right _ (List.mem_singleton_self _)

theorem Sound.still {v : Watch α} (sound : w.Sound) (seen : v.sightings = w.sightings)
    (model : v.simulator.model = w.simulator.model) (accepted : w.accepted ⊆ v.accepted)
    (emitted : (v.emitted.filter fun e => !e.isAborted) = w.emitted.filter fun e => !e.isAborted)
    (running : ∀ r, v.simulator.running = some r →
      ∃ charge, v.active = some charge ∧ v.InCharge r charge)
    (waiting : ∀ c ∈ v.simulator.queue.toList, v.Knows c) : v.Sound := by
  refine ⟨?_, fun x mem => ?_, running, waiting⟩
  · rw [seen, emitted]
    exact sound.complete
  · rw [seen] at mem
    obtain ⟨truth, known⟩ := sound.truthful x mem
    exact ⟨model ▸ truth, known.mono accepted (seen ▸ List.Subset.refl _) model⟩

theorem Sound.goOn (sound : w.Sound) {r : Running α} (model : t.model = w.simulator.model)
    (quiet : t.outbox = w.simulator.outbox) (busy : t.running = some r) (known : w.Knows c)
    (named : r.id = c.id)
    (fulfilled : c.Fulfilled w.simulator.model start (r.activity.ending t.angles))
    (waiting : t.queue.toList ⊆ w.simulator.queue.toList) : (w.saw c start t).Sound := by
  have active : (w.saw c start t).active = some (c, start) :=
    if_pos (congrArg Option.isSome busy)
  refine sound.still (saw_quiet quiet) model (List.Subset.refl _) ?_ (fun r running => ?_)
    fun d mem => ?_
  · unfold History.emitted
    rw [saw, quiet]
  · cases busy.symm.trans running
    exact ⟨_, active, known.saw model, named, model ▸ fulfilled⟩
  · exact (sound.waiting d (waiting mem)).saw model

theorem Sound.report (sound : w.Sound) {result : CommandResult α}
    (model : t.model = w.simulator.model)
    (report : t.outbox = w.simulator.outbox.push ⟨c.id, result⟩) (idle : t.running = none)
    (known : w.Knows c) (fulfilled : c.Fulfilled w.simulator.model start ⟨result, t.angles⟩)
    (plain : result ≠ .error .stopped)
    (waiting : ∀ d ∈ t.queue.toList, (w.saw c start t).Knows d) : (w.saw c start t).Sound := by
  have seen := @saw_report α w c start t _ report
  refine ⟨?_, fun x mem => ?_, fun r busy => ?_, waiting⟩
  · have emitted : (w.saw c start t).emitted = w.emitted ++ [⟨c.id, result⟩] := by
      simp [History.emitted, saw, report]
    have kept : CompletionEvent.isAborted ⟨c.id, result⟩ = false :=
      CompletionEvent.isAborted_of_ne plain
    rw [seen, emitted, List.map_append, List.filter_append, sound.complete]
    simp [kept]
  · rw [seen] at mem
    obtain old | new := List.mem_append.1 mem
    · obtain ⟨truth, known⟩ := sound.truthful x old
      exact ⟨model ▸ truth, known.saw model⟩
    · cases List.mem_singleton.1 new
      exact ⟨⟨rfl, model ▸ fulfilled⟩, known.saw model⟩
  · cases idle.symm.trans busy

theorem Sound.turn [Scalar.FiniteTotal α] {rest : CommandQueue α}
    (idle : w.simulator.running = none) (next : w.simulator.queue.pop? = some (c, rest))
    (accepted : w.simulator.model.Accepted) (sound : w.Sound) :
    (w.saw c w.simulator.angles ({ w.simulator with queue := rest }.start c)).Sound := by
  have queue : w.simulator.queue.toList = c :: rest.toList := CommandQueue.toList_of_pop next
  have known : w.Knows c := sound.waiting c (queue ▸ List.mem_cons_self)
  have others : rest.toList ⊆ w.simulator.queue.toList := queue ▸ List.subset_cons_self _ _
  have fulfilled := Simulator.plan_fulfilled (s := { w.simulator with queue := rest }) accepted c
  unfold Simulator.start
  cases plan : { w.simulator with queue := rest }.plan c with
  | run activity =>
    -- What the plan promises is kept as the charge until the command ends.
    rw [plan] at fulfilled
    exact sound.goOn rfl rfl rfl known rfl fulfilled others
  | expand commands =>
    rw [plan] at fulfilled
    obtain ⟨target, steps, kind, parts⟩ := Simulator.plan_expand plan
    -- The numbered commands are in the queue already when the line is seen to end.
    refine sound.report rfl rfl idle known fulfilled nofun fun d mem => ?_
    have either : d ∈ commands ++ rest.toList := mem
    obtain part | old := List.mem_append.1 either
    · exact knows_part rfl kind (parts ▸ part)
    · exact (sound.waiting d (others old)).saw rfl
  | settle result =>
    rw [plan] at fulfilled
    obtain ⟨e, rfl, other⟩ := Simulator.plan_settle plan
    refine sound.report rfl rfl idle known fulfilled (fun stopped => ?_) fun d mem => ?_
    · cases stopped
      exact other rfl
    · exact (sound.waiting d (others mem)).saw rfl

end Steps

theorem Sound.pass_inCharge (sound : w.Sound) {r : Running α} {start : JointPair α}
    (busy : w.simulator.running = some r) (inCharge : w.InCharge r (c, start)) (dt : α) :
    (w.saw c start (w.simulator.pass dt)).Sound := by
  obtain ⟨known, named, fulfilled⟩ := inCharge
  -- The report bears the identifier of the running command, which is that of the one in charge.
  have event (result : CommandResult α) :
      w.simulator.outbox.push ⟨r.id, result⟩ = w.simulator.outbox.push ⟨c.id, result⟩ :=
    congrArg (fun id => w.simulator.outbox.push ⟨id, result⟩) named
  unfold Simulator.pass
  rw [busy]
  dsimp only
  cases stage : (r.after (Simulator.tickTime dt)).stage with
  | waiting => exact sound.goOn rfl rfl rfl known named fulfilled (List.Subset.refl _)
  | moved angles =>
    have later := Running.ending_of_moved stage w.simulator.angles
    exact sound.goOn rfl rfl rfl known named (later ▸ fulfilled) (List.Subset.refl _)
  | arrived angles completion =>
    have ends : c.Fulfilled w.simulator.model start ⟨.ok completion, angles⟩ :=
      Running.ending_of_arrived stage w.simulator.angles ▸ fulfilled
    exact sound.report rfl (event _) rfl known ends nofun fun d mem => (sound.waiting d mem).saw rfl
  | elapsed =>
    have ends : c.Fulfilled w.simulator.model start ⟨.ok .done, w.simulator.angles⟩ :=
      Running.ending_of_elapsed stage w.simulator.angles ▸ fulfilled
    exact sound.report rfl (event _) rfl known ends nofun fun d mem => (sound.waiting d mem).saw rfl

theorem Sound.pass (sound : w.Sound) (dt : α) : (w.pass dt).Sound := by
  have idle (free : w.simulator.running = none) : w.simulator.pass dt = w.simulator := by
    rw [Simulator.pass, free]
  unfold Watch.pass
  cases busy : w.simulator.running with
  | none =>
    rw [idle busy]
    split
    · exact sound
    · refine sound.still (saw_quiet rfl) rfl (List.Subset.refl _) rfl (fun r running => ?_)
        fun d mem => (sound.waiting d mem).saw rfl
      cases busy.symm.trans running
  | some r =>
    obtain ⟨charge, active, inCharge⟩ := sound.running r busy
    rw [active]
    exact sound.pass_inCharge busy inCharge dt

theorem Sound.startNext [Scalar.FiniteTotal α] (accepted : w.simulator.model.Accepted)
    (sound : w.Sound) : w.startNext.Sound := by
  refine (@startNext_keeps α _ (fun v => v.simulator.model.Accepted ∧ v.Sound)
    (fun idle next both => ⟨?_, both.2.turn idle next both.1⟩) w ⟨accepted, sound⟩).2
  exact (Simulator.step_start idle next).kept.1 ▸ both.1

/-! ### Operations -/

/-- Nothing has happened that changes the ending of the running command. -/
theorem Sound.undisturbed {v : Watch α} (sound : w.Sound) {change : Running α → Running α}
    (same : ∀ r, (change r).id = r.id ∧ ∀ angles,
      (change r).activity.ending angles = r.activity.ending angles)
    (seen : v.sightings = w.sightings) (model : v.simulator.model = w.simulator.model)
    (angles : v.simulator.angles = w.simulator.angles) (accepted : w.accepted ⊆ v.accepted)
    (emitted : v.emitted = w.emitted)
    (running : v.simulator.running = w.simulator.running.map change) (active : v.active = w.active)
    (waiting : ∀ c ∈ v.simulator.queue.toList, v.Knows c) : v.Sound := by
  refine sound.still seen model accepted (by rw [emitted]) (fun r busy => ?_) waiting
  obtain ⟨before, ran, rfl⟩ := Option.map_eq_some_iff.1 (running.symm.trans busy)
  obtain ⟨charge, charged, known, named, fulfilled⟩ := sound.running before ran
  obtain ⟨id, ending⟩ := same before
  refine ⟨charge, active.trans charged, known.mono accepted ?_ model, id.trans named, ?_⟩
  · exact seen ▸ List.Subset.refl _
  · rw [model, angles, ending]
    exact fulfilled

theorem Sound.abort {operation : Operation α} (sound : w.Sound)
    (aborts : operation.aborts = true)
    (accepted : (w.toHistory.after operation).accepted = w.accepted)
    (idle : (w.toHistory.after operation).simulator.running = none)
    (empty : (w.toHistory.after operation).simulator.queue = .empty) :
    Sound { w with toHistory := w.toHistory.after operation, active := none } := by
  obtain ⟨new, appended, stopped⟩ := w.toHistory.appends operation
  have missed : (new.filter fun e => !e.isAborted) = [] := by
    refine List.filter_eq_nil_iff.2 fun e mem => ?_
    rw [CompletionEvent.isAborted, (stopped e mem).2 aborts]
    exact Bool.false_ne_true
  refine sound.still rfl (w.toHistory.model_after operation) (accepted ▸ List.Subset.refl _) ?_
    (fun r busy => ?_) fun c mem => ?_
  · have emitted := congrArg (List.filter fun e => !e.isAborted) appended
    rw [List.filter_append, missed, List.append_nil] at emitted
    exact emitted
  · cases idle.symm.trans busy
  · dsimp only at mem
    rw [empty] at mem
    cases mem

theorem Sound.after [Scalar.FiniteTotal α] (accepted : w.simulator.model.Accepted)
    (sound : w.Sound) (operation : Operation α) : (w.after operation).Sound := by
  have known {v : Watch α} {c : Command α} (mem : c ∈ w.simulator.queue.toList)
      (accepted : w.accepted ⊆ v.accepted) (seen : v.sightings = w.sightings)
      (model : v.simulator.model = w.simulator.model) : v.Knows c :=
    (sound.waiting c mem).mono accepted (seen ▸ List.Subset.refl _) model
  cases operation with
  | enqueue c =>
    unfold Watch.after
    dsimp only
    split
    · refine Sound.startNext accepted ?_
      refine sound.undisturbed (fun r => ⟨rfl, fun _ => rfl⟩) rfl rfl rfl
        (List.subset_append_left _ _) rfl Option.map_id'.symm rfl fun d mem => ?_
      obtain old | new := List.mem_append.1 mem
      · exact known old (List.subset_append_left _ _) rfl rfl
      · exact .inl (List.mem_append_right _ new)
    · exact sound
  | tick dt =>
    have model : (w.pass dt).simulator.model = w.simulator.model := by
      have passed := congrArg (fun h => h.simulator.model) (w.toHistory_pass dt)
      exact passed.trans (w.simulator.pass_model dt)
    exact Sound.startNext (model ▸ accepted) (sound.pass dt)
  | setSpeed value =>
    exact sound.undisturbed (fun r => ⟨r.retime_id _ _, fun _ => r.ending_retime _ _ _⟩) rfl rfl rfl
      (List.Subset.refl _) rfl rfl rfl fun d mem => known mem (List.Subset.refl _) rfl rfl
  | resetPath =>
    exact sound.undisturbed (fun r => ⟨rfl, fun _ => rfl⟩) rfl rfl rfl
      (List.Subset.refl _) rfl Option.map_id'.symm rfl fun d mem =>
        known mem (List.Subset.refl _) rfl rfl
  | stop =>
    have stopped := w.simulator.stop_eq
    exact sound.abort rfl rfl (congrArg Simulator.running stopped)
      (congrArg Simulator.queue stopped)
  | hardReset =>
    have reset := w.simulator.hardReset_eq
    rw [Simulator.stop_eq] at reset
    exact sound.abort rfl rfl (congrArg Simulator.running reset) (congrArg Simulator.queue reset)
  | drain =>
    exact sound.undisturbed (fun r => ⟨rfl, fun _ => rfl⟩) rfl rfl rfl
      (List.Subset.refl _) w.toHistory.emitted_drain Option.map_id'.symm rfl fun d mem =>
        known mem (List.Subset.refl _) rfl rfl

theorem Sound.start (m : ArmModel α) (speed : α) : (Watch.start (.withSpeed m speed)).Sound := by
  refine ⟨rfl, fun x mem => ?_, fun r busy => ?_, fun c mem => ?_⟩
  · cases mem
  · cases busy
  · cases mem

theorem Sound.run [Scalar.FiniteTotal α] {m : ArmModel α} (accepted : m.Accepted) (speed : α)
    (operations : List (Operation α)) :
    ((Watch.start (.withSpeed m speed)).run operations).simulator.model = m ∧
      ((Watch.start (.withSpeed m speed)).run operations).Sound := by
  refine @run_keeps α _ (fun w => w.simulator.model = m ∧ w.Sound)
    (fun w operation both => ?_) _ ⟨rfl, .start m speed⟩ operations
  obtain ⟨model, sound⟩ := both
  have kept := congrArg (fun h => h.simulator.model) (w.toHistory_after operation)
  exact ⟨kept.trans ((w.toHistory.model_after operation).trans model),
    sound.after (model ▸ accepted) operation⟩

end Watch

/-! ## Runs -/

end PlanarArm
