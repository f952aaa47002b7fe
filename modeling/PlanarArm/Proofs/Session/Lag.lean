import PlanarArm.Proofs.Arm.Return
import PlanarArm.Proofs.Session.Snapshots
import PlanarArm.Proofs.Simulator.Ranges

/-!
# Answers and snapshots

Whoever has seen an answer and then looks at the snapshot need not see the simulator as the answer
left it. A command that ends as soon as it is taken in is answered at once, and the next snapshot
comes with the next frame: until then the arm can be busy and look idle (`answered_before_shown`).
What such an answer cannot run ahead of is the joints and the path. And in an action that publishes,
the snapshot stands between its answers and its acknowledgement, so that an acknowledgement is never
ahead of the snapshot.

* `Session.answered_of_publishes`, `Session.acknowledged_after_published`: the place of an answer
  and of an acknowledgement among the effects.
* `shown_when_answered`: what can be relied on.
-/

namespace PlanarArm

/-! ## Answers and acknowledgements among the effects -/

section

variable {α : Type} [Scalar α]

/-- In an action that publishes, a snapshot of what the action leaves behind follows each answer,
with nothing but further replies in between. -/
theorem Session.answered_of_publishes {s : Session α} {action : Action α} {ticket : Nat}
    {result : CommandResult α} {seen rest : List (Effect α)} (publishes : action.publishes = true)
    (effects : (s.step action).2.toList = seen ++ .answered ticket result :: rest) :
    ∃ replies acks, rest = replies ++ .published (s.step action).1.simulator.snapshot :: acks ∧
      (∀ e ∈ replies, e.isReply = true) ∧
      ∀ e ∈ acks, ∃ ack aborted, e = .acknowledged ack aborted := by
  obtain ⟨replies, acks, shape, given, acknowledged⟩ := s.effects_of_publishes publishes
  rcases List.append_eq_append_iff.1 (shape.symm.trans effects) with
    ⟨later, -, behind⟩ | ⟨later, before, behind⟩
  · -- The answer would stand behind the snapshot.
    cases later with
    | nil => cases behind
    | cons first more =>
      have split := (List.cons.inj behind).2
      have mem : Effect.answered ticket result ∈ acks := by
        rw [split]
        exact List.mem_append_right more List.mem_cons_self
      obtain ⟨ack, aborted, other⟩ := acknowledged _ mem
      cases other
  · cases later with
    | nil => cases behind
    | cons first more =>
      refine ⟨more, acks, (List.cons.inj behind).2, fun e mem => given e ?_, acknowledged⟩
      rw [before]
      exact List.mem_append_right seen (List.mem_cons_of_mem first mem)

/-- By the time of an acknowledgement, the snapshot of what the action leaves behind is the latest
one. -/
theorem Session.acknowledged_after_published {s : Session α} {action : Action α}
    {ack aborted : Nat} {seen rest : List (Effect α)}
    (effects : (s.step action).2.toList = seen ++ .acknowledged ack aborted :: rest)
    (w : World α) :
    (seen.foldl World.absorb w).latest = (s.step action).1.simulator.snapshot := by
  have mem : Effect.acknowledged ack aborted ∈ (s.step action).2.toList := by
    rw [effects]
    exact List.mem_append_right seen List.mem_cons_self
  cases publishes : action.publishes with
  | false => cases (s.effects_of_silent publishes).1 _ mem
  | true =>
    obtain ⟨replies, acks, shape, given, acknowledged⟩ := s.effects_of_publishes publishes
    rcases List.append_eq_append_iff.1 (shape.symm.trans effects) with
      ⟨later, before, behind⟩ | ⟨later, before, behind⟩
    · cases later with
      | nil => cases behind
      | cons first more =>
        obtain ⟨rfl, split⟩ := List.cons.inj behind
        have further : ∀ e ∈ more, ∃ ack aborted, e = .acknowledged ack aborted := by
          intro e inside
          refine acknowledged e ?_
          rw [split]
          exact List.mem_append_left _ inside
        rw [before, List.foldl_append, List.foldl_cons, World.latest_foldl_absorb,
          published_of_acks further]
        rfl
    · -- The acknowledgement would stand among the replies.
      cases later with
      | nil => cases behind
      | cons first more =>
        obtain ⟨rfl, -⟩ := List.cons.inj behind
        have reply := given (.acknowledged ack aborted) (by
          rw [before]
          exact List.mem_append_right seen List.mem_cons_self)
        cases reply

/-- What a sender sees that looks at the snapshot after an answer or an acknowledgement, whatever
the session has done before. A frame, forgetting the path and an abort publish one snapshot each, of
what they leave behind, and nothing else publishes any. If the action that answers publishes, the
snapshot follows, before any acknowledgement, and when the action is over it is the latest one and
up to date in all. If it does not, the latest snapshot already shows the joints, the elbow, the hand
and the path as they are after the action. And an acknowledgement comes when the latest snapshot is
up to date in all. -/
theorem shown_when_answered (m : ArmModel α) (speed maxStep : α) (reportCapacity : Nat)
    (actions : List (Action α)) (action : Action α) :
    let w := (World.create (.withSpeed m speed) maxStep reportCapacity).perform actions
    let s := (w.act action).session.simulator
    let effects := (w.session.step action).2.toList
    (effects.filterMap Effect.published? = if action.publishes then [s.snapshot] else []) ∧
    (∀ seen ticket result rest, effects = seen ++ .answered ticket result :: rest →
      if action.publishes then
        (∃ replies acks, rest = replies ++ .published s.snapshot :: acks ∧
          (∀ e ∈ replies, e.isReply = true) ∧
          ∀ e ∈ acks, ∃ ack aborted, e = .acknowledged ack aborted) ∧
        (w.act action).latest = s.snapshot ∧ (w.act action).latest.Mirrors s
      else
        ((seen ++ [.answered ticket result]).foldl World.absorb w).latest.Shows s ∧
          (w.act action).latest.Shows s) ∧
    ∀ seen ack aborted rest, effects = seen ++ .acknowledged ack aborted :: rest →
      (seen.foldl World.absorb w).latest = s.snapshot ∧
        (seen.foldl World.absorb w).latest.Mirrors s := by
  intro w s effects
  have shown : w.Shown := (World.Shown.create m speed maxStep reportCapacity).perform actions
  have session : (w.session.step action).1.simulator = s :=
    congrArg Session.simulator (w.act_eq action).1.symm
  refine ⟨?_, fun seen ticket result rest split => ?_, fun seen ack aborted rest split => ?_⟩
  · rw [← session]
    exact w.session.published_step action
  · have latest := w.latest_act action
    cases publishes : action.publishes with
    | true =>
      rw [publishes] at latest
      have follows := Session.answered_of_publishes publishes split
      rw [session] at follows
      exact ⟨follows, latest, w.mirrors_latest publishes⟩
    | false =>
      rw [publishes, if_neg Bool.false_ne_true] at latest
      have replies : ∀ e ∈ seen ++ [.answered ticket result], e.isReply = true := by
        intro e mem
        refine (w.session.effects_of_silent publishes).1 e ?_
        change e ∈ effects
        rw [split, List.append_cons]
        exact List.mem_append_left rest mem
      have after := (shown.act action).shows
      have older : ((seen ++ [Effect.answered ticket result]).foldl World.absorb w).latest =
          w.latest := by
        rw [World.latest_foldl_absorb, published_of_replies replies]
        rfl
      rw [if_neg Bool.false_ne_true, older, ← latest]
      exact ⟨after, after⟩
  · have latest := Session.acknowledged_after_published split w
    rw [session] at latest
    exact ⟨latest, latest ▸ s.mirrors_snapshot⟩

end

/-! ## A line that is answered before it is shown -/

section

variable {α : Type} [Scalar α]

/-- A line that is handed in while no command runs or waits is replaced at once, and its first point
starts. -/
theorem Simulator.enqueue_line_of_idle {s : Simulator α} {line first : Command α}
    {rest : List (Command α)} {activity : Activity α} (idle : s.running = none)
    (empty : s.queue = .empty) (valid : line.kind.check = .ok ())
    (plan : s.plan line = .expand (first :: rest)) (starts : s.plan first = .run activity) :
    s.enqueue line = .ok { s with
      queue := CommandQueue.empty.pushFront rest
      running := some (.begin first.id activity)
      outbox := s.outbox.push ⟨line.id, .ok .expanded⟩ } := by
  let replaced : Simulator α := { s with
    queue := CommandQueue.empty.pushFront (first :: rest)
    outbox := s.outbox.push ⟨line.id, .ok .expanded⟩ }
  have expands : s.start line = replaced := by
    rw [start, plan, empty]
    rfl
  have next : replaced.queue.pop? = some (first, CommandQueue.empty.pushFront rest) := rfl
  have begins : ({ replaced with queue := CommandQueue.empty.pushFront rest } :
      Simulator α).start first = { replaced with
        queue := CommandQueue.empty.pushFront rest
        running := some (.begin first.id activity) } := by
    have same : ({ replaced with queue := CommandQueue.empty.pushFront rest } :
      Simulator α).plan first = .run activity := starts
    rw [start, same]
  have first_next := @startNext_of_next α _ replaced _ _ idle next
  rw [begins] at first_next
  rw [enqueue_of_empty idle empty valid, expands, first_next]
  exact congrArg Except.ok (startNext_of_running rfl)

end

theorem hand_home : (forward (.standard : ArmModel ℝ) .home).hand = ⟨1.75, 0⟩ := by
  have cos : Real.cos (0 + 0) = 1 := by rw [add_zero, Real.cos_zero]
  have sin : Real.sin (0 + 0) = 0 := by rw [add_zero, Real.sin_zero]
  have formula : (forward (.standard : ArmModel ℝ) ⟨0, 0⟩).hand =
      ⟨(1.0 : ℝ) * Real.cos 0 + (0.75 : ℝ) * Real.cos (0 + 0),
        (1.0 : ℝ) * Real.sin 0 + (0.75 : ℝ) * Real.sin (0 + 0)⟩ := rfl
  rw [JointPair.home_real, formula, cos, sin, Real.cos_zero, Real.sin_zero]
  norm_num

theorem findsBack_home : (ArmModel.standard : ArmModel ℝ).FindsBack .home := by
  have shoulder : (0 : ℝ) ∈ Set.Icc (-Real.pi) Real.pi :=
    ⟨neg_nonpos.2 Real.pi_pos.le, Real.pi_pos.le⟩
  have elbow : (0 : ℝ) ∈ Set.Icc (Scalar.ofDegrees (-150.0)) (Scalar.ofDegrees 150.0) := by
    rw [Scalar.ofDegrees_real, Scalar.ofDegrees_real]
    constructor <;> nlinarith [Real.pi_pos]
  rw [JointPair.home_real, findsBack_straight ArmModel.accepted_standard.links, wrapAngle_zero]
  exact ArmModel.allows_real.2 ⟨shoulder, elbow⟩

/-- A line of the standard arm that leads from its hand at home to where it is. -/
noncomputable def idleLine : Command ℝ :=
  ⟨⟨"L"⟩, .lineTo ⟨1.75, 0⟩ 2⟩

/-- Both points of the line are where the hand is. -/
theorem plan_idleLine {s : Simulator ℝ} (model : s.model = .standard) (angles : s.angles = .home) :
    s.plan idleLine = .expand [⟨⟨"L:1"⟩, .moveTo ⟨1.75, 0⟩⟩, ⟨⟨"L:2"⟩, .moveTo ⟨1.75, 0⟩⟩] ∧
      ∃ p, s.plan ⟨⟨"L:1"⟩, .moveTo ⟨1.75, 0⟩⟩ = .run (.motion p) := by
  have still (index : Nat) : lineStep ⟨"L"⟩ (⟨1.75, 0⟩ : Point ℝ) ⟨1.75, 0⟩ 2 index =
      ⟨CommandId.sub ⟨"L"⟩ index, .moveTo ⟨1.75, 0⟩⟩ := by
    unfold lineStep Point.lerp
    simp
  have hand : s.placement.hand = ⟨1.75, 0⟩ := by
    rw [Simulator.placement, model, angles, hand_home]
  constructor
  · have expanded : s.plan idleLine =
        .expand (lineCommands ⟨"L"⟩ s.placement.hand ⟨1.75, 0⟩ 2) := rfl
    have points : lineCommands ⟨"L"⟩ (⟨1.75, 0⟩ : Point ℝ) ⟨1.75, 0⟩ 2 =
        [lineStep ⟨"L"⟩ ⟨1.75, 0⟩ ⟨1.75, 0⟩ 2 1, lineStep ⟨"L"⟩ ⟨1.75, 0⟩ ⟨1.75, 0⟩ 2 2] := rfl
    rw [expanded, hand, points, still, still]
    rfl
  · obtain ⟨solution, found⟩ := findsBack_home
    rw [hand_home, ← model] at found
    refine ⟨.timed s.model s.angles solution.angles s.speedScale (some solution.branch), ?_⟩
    unfold Simulator.plan
    dsimp only
    rw [found]
    rfl

theorem step_idleLine :
    ∃ t : Session ℝ, (Session.create (.withSpeed .standard 1) 0.1).step
        (.request (.submit idleLine 0)) =
          (t, #[.answered 0 (.ok .expanded), .broadcast ⟨⟨"L"⟩, .ok .expanded⟩]) ∧
      t.simulator.isBusy = true ∧ t.simulator.current = some ⟨"L:1"⟩ ∧ t.simulator.queue.size = 1 := by
  set s : Session ℝ := Session.create (.withSpeed .standard 1) 0.1
  obtain ⟨plan, p, starts⟩ := @plan_idleLine s.simulator rfl rfl
  have valid : idleLine.kind.check = .ok () := by
    simp [idleLine, CommandKind.check, CommandKind.fault?, CommandKind.numbers]
  have taken := Simulator.enqueue_line_of_idle rfl rfl valid plan starts
  have allowed : s.table.refusal? (α := ℝ) idleLine.id = none := by decide
  rw [Session.step_submit allowed taken 0]
  exact ⟨_, rfl, rfl, rfl, rfl⟩

/-- The arm starts to move along a line, one further point of it waits, and the line has been
answered. The latest snapshot shows an arm without a command, and it will until the next frame. -/
theorem answered_before_shown :
    let w := World.create (.withSpeed (.standard : ArmModel ℝ) 1) 0.1 16
    let after := w.act (.request (.submit idleLine 0))
    (w.session.step (.request (.submit idleLine 0))).2.toList =
        [.answered 0 (.ok .expanded), .broadcast ⟨⟨"L"⟩, .ok .expanded⟩] ∧
      (after.session.simulator.isBusy = true ∧
        after.session.simulator.current = some ⟨"L:1"⟩ ∧ after.session.simulator.queue.size = 1) ∧
      after.latest.busy = false ∧ after.latest.current = none ∧ after.latest.queueLength = 0 := by
  intro w after
  obtain ⟨t, step, busy⟩ := step_idleLine
  have session : after.session = t := (w.act_eq _).1.trans (congrArg Prod.fst step)
  have latest : after.latest = w.latest := w.latest_act (.request (.submit idleLine 0))
  rw [latest, session]
  exact ⟨congrArg (fun x => x.2.toList) step, busy, rfl, rfl, rfl⟩

/-- A sleep that is aborted is answered before the snapshot, and the abort is acknowledged after it;
and the answer to the line finds the joints and the path shown as they are. -/
theorem shown_when_answered_nap :
    let fresh := World.create (.withSpeed (.standard : ArmModel ℝ) 1) 0.1 16
    let w := fresh.perform [.request (.submit ⟨⟨"nap"⟩, .sleep 1⟩ 0)]
    let s := (w.act (.request (.stop 0))).session.simulator
    (w.act (.request (.stop 0))).latest = s.snapshot ∧
      ([.answered 0 (.error .stopped), .broadcast ⟨⟨"nap"⟩, .error .stopped⟩,
        .published s.snapshot].foldl World.absorb w).latest = s.snapshot ∧
      ([.answered 0 (.ok .expanded)].foldl World.absorb fresh).latest.Shows
        (fresh.act (.request (.submit idleLine 0))).session.simulator := by
  intro fresh w s
  have valid : (CommandKind.sleep (1 : ℝ)).check = .ok () := by
    simp [CommandKind.check, CommandKind.fault?, CommandKind.numbers]
  have taken := @Simulator.enqueue_of_idle ℝ _ fresh.session.simulator ⟨⟨"nap"⟩, .sleep 1⟩ _ rfl rfl
    valid rfl
  have allowed : fresh.session.table.refusal? (α := ℝ) ⟨"nap"⟩ = none := by decide
  have napping : w.session = _ :=
    (fresh.act_eq (.request (.submit ⟨⟨"nap"⟩, .sleep 1⟩ 0))).1.trans
      (congrArg Prod.fst (Session.step_submit allowed taken 0))
  have effects : (w.session.step (.request (.stop 0))).2.toList =
      [.answered 0 (.error .stopped), .broadcast ⟨⟨"nap"⟩, .error .stopped⟩,
        .published s.snapshot, .acknowledged 0 1] := by
    have stopped : s = (w.session.step (.request (.stop 0))).1.simulator :=
      congrArg Session.simulator (w.act_eq (.request (.stop 0))).1
    rw [stopped, napping]
    rfl
  obtain ⟨t, step, -⟩ := step_idleLine
  have line : (fresh.session.step (.request (.submit idleLine 0))).2.toList =
      [] ++ .answered 0 (.ok .expanded) :: [.broadcast ⟨⟨"L"⟩, .ok .expanded⟩] :=
    congrArg (fun x => x.2.toList) step
  have napped := shown_when_answered (.standard : ArmModel ℝ) 1 0.1 16
    [.request (.submit ⟨⟨"nap"⟩, .sleep 1⟩ 0)] (.request (.stop 0))
  have lined := shown_when_answered (.standard : ArmModel ℝ) 1 0.1 16
    [] (.request (.submit idleLine 0))
  have performed : (World.create (.withSpeed (.standard : ArmModel ℝ) 1) 0.1 16).perform
    [.request (.submit ⟨⟨"nap"⟩, .sleep 1⟩ 0)] = w := rfl
  -- Nothing more is to be computed of the world in which the sleep runs.
  clear_value w
  rw [performed] at napped
  obtain ⟨-, answered, acknowledged⟩ := napped
  exact ⟨(answered [] 0 _ _ effects).2.1, (acknowledged [_, _, _] 0 1 [] effects).1,
    (lined.2.1 [] 0 _ _ line).1⟩

end PlanarArm
