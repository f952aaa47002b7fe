import PlanarArm.Proofs.Session.Course
import PlanarArm.Proofs.Simulator.Rest
import PlanarArm.Scalar.Binary64

/-!
# The snapshot that was published last

A session publishes a snapshot at the end of every frame, when it forgets the path of the hand, and
when it aborts (`Action.publishes`). A command that is taken in, a new speed and the end of the
session change the simulator behind the back of whoever looks at the snapshot, but they touch
neither the joints nor the path. So the snapshot can lag in all but these, and a session with an
idle arm shows no waiting command.

* `Session.effects_of_publishes`, `Session.effects_of_silent`: what an action does to the outside,
  in which order.
* `Session.published_step`: the snapshots that an action publishes.
* `World.Shown.act`: an action keeps the joints and the path of the snapshot up to date.
* `latest_snapshot`: all of it together, for every run of a session.
-/

namespace PlanarArm

variable {α : Type}

/-! ## The effects of an action -/

/-- Whether an action ends in a snapshot. -/
def Action.publishes : Action α → Bool
  | .frame _ => true
  | .request .resetPath => true
  | .request (.stop _) => true
  | .request (.hardReset _) => true
  | _ => false

/-- Whether an effect tells somebody how a command has ended. -/
def Effect.isReply : Effect α → Bool
  | .answered _ _ => true
  | .broadcast _ => true
  | _ => false

/-- The snapshot that an effect publishes, if it is of this kind. -/
def Effect.published? : Effect α → Option (Snapshot α)
  | .published shown => some shown
  | _ => none

theorem published_of_replies {effects : List (Effect α)}
    (replies : ∀ e ∈ effects, e.isReply = true) : effects.filterMap Effect.published? = [] := by
  refine List.filterMap_eq_nil_iff.2 fun e mem => ?_
  have reply := replies e mem
  cases e with
  | answered ticket result => rfl
  | broadcast event => rfl
  | published shown => cases reply
  | acknowledged ack aborted => rfl

theorem published_of_acks {effects : List (Effect α)}
    (acks : ∀ e ∈ effects, ∃ ack aborted, e = .acknowledged ack aborted) :
    effects.filterMap Effect.published? = [] := by
  refine List.filterMap_eq_nil_iff.2 fun e mem => ?_
  obtain ⟨ack, aborted, rfl⟩ := acks e mem
  rfl

namespace Session

theorem isReply_deliver {table : Correlation} {event : CompletionEvent α} :
    ∀ e ∈ (deliver table event).2, e.isReply = true := by
  unfold deliver
  split
  · intro e mem
    simp only [List.mem_cons, List.not_mem_nil, or_false] at mem
    rcases mem with rfl | rfl <;> rfl
  · intro e mem
    rw [List.mem_singleton.1 mem]
    rfl

theorem isReply_deliverAll {table : Correlation} {effects : Array (Effect α)}
    {events : List (CompletionEvent α)} (before : ∀ e ∈ effects.toList, e.isReply = true) :
    ∀ e ∈ (deliverAll table effects events).2.toList, e.isReply = true := by
  induction events generalizing table effects with
  | nil => exact before
  | cons event rest ih =>
    refine ih fun e mem => ?_
    have either : e ∈ (effects ++ (deliver table event).2).toList := mem
    rw [Array.toList_appendList] at either
    rcases List.mem_append.1 either with old | new
    · exact before e old
    · exact isReply_deliver e new

theorem isReply_flush (s : Session α) : ∀ e ∈ s.flush.2.toList, e.isReply = true :=
  isReply_deliverAll nofun

theorem isReply_failAll (s : Session α) (error : ArmError α) :
    ∀ e ∈ (s.failAll error).2.toList, e.isReply = true := by
  intro e mem
  obtain ⟨ticket, -, rfl⟩ := List.mem_map.1 mem
  rfl

theorem isReply_append {first second : Array (Effect α)}
    (left : ∀ e ∈ first.toList, e.isReply = true) (right : ∀ e ∈ second.toList, e.isReply = true) :
    ∀ e ∈ (first ++ second).toList, e.isReply = true := by
  intro e mem
  rw [Array.toList_append, List.mem_append] at mem
  rcases mem with old | new
  · exact left e old
  · exact right e new

variable [Scalar α]

/-- An action that publishes first gives out its replies, then a snapshot of the simulator as the
action leaves it, and the acknowledgement, if there is one, comes last. -/
theorem effects_of_publishes (s : Session α) {action : Action α}
    (publishes : action.publishes = true) :
    ∃ replies acks, (s.step action).2.toList =
        replies ++ .published (s.step action).1.simulator.snapshot :: acks ∧
      (∀ e ∈ replies, e.isReply = true) ∧
      ∀ e ∈ acks, ∃ ack aborted, e = .acknowledged ack aborted := by
  have abort (t : Session α) (ack aborted : Nat) :
      ∃ replies acks, ((settleAbort t).2.push (.acknowledged ack aborted)).toList =
          replies ++ .published (settleAbort t).1.simulator.snapshot :: acks ∧
        (∀ e ∈ replies, e.isReply = true) ∧
        ∀ e ∈ acks, ∃ ack aborted, e = .acknowledged ack aborted := by
    refine ⟨(t.flush.2 ++ (t.flush.1.failAll .stopped).2).toList, [.acknowledged ack aborted], ?_,
      isReply_append t.isReply_flush (t.flush.1.isReply_failAll .stopped), fun e mem => ?_⟩
    · rw [settleAbort, Array.toList_push, Array.toList_push, List.append_assoc]
      rfl
    · exact ⟨ack, aborted, List.mem_singleton.1 mem⟩
  cases action with
  | frame now =>
    exact ⟨_, [], Array.toList_push, isReply_flush _, nofun⟩
  | request r =>
    cases r with
    | submit c ticket => cases publishes
    | setSpeed value => cases publishes
    | resetPath => exact ⟨[], [], rfl, nofun, nofun⟩
    | stop ack => exact abort _ ack _
    | hardReset ack => exact abort _ ack _
  | finish => cases publishes

/-- Any other action only gives out replies, and it touches neither the joints nor the path. -/
theorem effects_of_silent (s : Session α) {action : Action α} (silent : action.publishes = false) :
    (∀ e ∈ (s.step action).2.toList, e.isReply = true) ∧
      s.simulator.SamePlace (s.step action).1.simulator := by
  cases action with
  | frame now => cases silent
  | request r =>
    cases r with
    | submit c ticket =>
      cases verdict : s.refusal? c with
      | some e =>
        have step : s.step (.request (.submit c ticket)) = (s, #[.answered ticket (.error e)]) :=
          submit_of_refusal verdict ticket
        rw [step]
        exact ⟨fun effect mem => List.mem_singleton.1 mem ▸ rfl, rfl, rfl, rfl⟩
      | none =>
        obtain ⟨t, -, taken, submitted⟩ := submit_of_accepted verdict ticket
        have step : s.step (.request (.submit c ticket)) =
            flush ⟨t, s.table.insert c.id ticket, s.clock⟩ := submitted
        obtain ⟨model, angles, path⟩ := Simulator.enqueue_still taken
        rw [step]
        exact ⟨isReply_flush _, model, angles, path⟩
    | setSpeed value => exact ⟨nofun, rfl, rfl, rfl⟩
    | resetPath => cases silent
    | stop ack => cases silent
    | hardReset ack => cases silent
  | finish =>
    obtain ⟨model, angles, path⟩ := s.simulator.stop_still
    exact ⟨isReply_append (isReply_flush _) (isReply_failAll _ _), model, angles, path⟩

/-- An action that publishes does so once, and any other action not at all. -/
theorem published_step (s : Session α) (action : Action α) :
    (s.step action).2.toList.filterMap Effect.published? =
      if action.publishes then [(s.step action).1.simulator.snapshot] else [] := by
  cases publishes : action.publishes with
  | true =>
    obtain ⟨replies, acks, effects, given, acknowledged⟩ := s.effects_of_publishes publishes
    rw [effects, List.filterMap_append, published_of_replies given, List.filterMap_cons,
      published_of_acks acknowledged]
    rfl
  | false => exact published_of_replies (s.effects_of_silent publishes).1

/-- What an action does with the simulator is what its operations do. -/
theorem simulator_step (s : Session α) (action : Action α) :
    (s.step action).1.simulator =
      ((History.start s.simulator).run (s.operations action)).simulator := by
  cases action with
  | frame now => rfl
  | request r =>
    cases r with
    | submit c ticket =>
      cases verdict : s.refusal? c with
      | some e =>
        have step : s.step (.request (.submit c ticket)) = (s, #[.answered ticket (.error e)]) :=
          submit_of_refusal verdict ticket
        rw [step, operations, verdict]
        rfl
      | none =>
        obtain ⟨t, -, taken, submitted⟩ := submit_of_accepted verdict ticket
        have step : s.step (.request (.submit c ticket)) =
            flush ⟨t, s.table.insert c.id ticket, s.clock⟩ := submitted
        have enqueued : ((History.start s.simulator).after (.enqueue c)).simulator = t :=
          History.after_enqueue taken
        rw [step, operations, verdict]
        exact congrArg (fun u : Simulator α => u.drain.2) enqueued.symm
    | setSpeed value => rfl
    | resetPath => rfl
    | stop ack => rfl
    | hardReset ack => rfl
  | finish => rfl

end Session

/-! ## Snapshots -/

namespace Snapshot

/-- The snapshot is one of an arm that is busy as long as it has a command, and whose hand is at the
latest point of its path. -/
structure Consistent (shown : Snapshot α) : Prop where
  current : shown.busy = shown.current.isSome
  waiting : shown.busy = false → shown.queueLength = 0
  hand : ∀ p, shown.path.toList.getLast? = some p → p = shown.hand

/-- The snapshot shows the joints and the path of a simulator as they are. -/
structure Shows [Scalar α] (shown : Snapshot α) (s : Simulator α) : Prop where
  angles : shown.angles = s.angles
  elbow : shown.elbow = (forward s.model s.angles).elbow
  hand : shown.hand = (forward s.model s.angles).hand
  path : shown.path = s.path

/-- The snapshot shows a simulator as it is in all. -/
structure Mirrors [Scalar α] (shown : Snapshot α) (s : Simulator α) : Prop extends
    shown.Shows s where
  busy : shown.busy = s.isBusy
  queueLength : shown.queueLength = s.queue.size
  speedScale : shown.speedScale = s.speedScale
  current : shown.current = s.current

end Snapshot

namespace Simulator

variable [Scalar α] {s : Simulator α}

theorem mirrors_snapshot (s : Simulator α) : s.snapshot.Mirrors s :=
  ⟨⟨rfl, rfl, rfl, rfl⟩, rfl, rfl, rfl, rfl⟩

theorem consistent_snapshot (settled : s.Settled) (traced : s.Traced) : s.snapshot.Consistent where
  current := (Option.isSome_map ..).symm
  waiting := by
    intro idle
    have idle : s.running = none := Option.isSome_eq_false_iff.1 idle |> Option.isNone_iff_eq_none.1
    have empty := settled idle
    have size : s.snapshot.queueLength = s.queue.toList.length := s.queue.size_eq_length
    rw [size, empty, List.length_nil]
  hand := traced

end Simulator

theorem Snapshot.Shows.of_same [Scalar α] {shown : Snapshot α} {s t : Simulator α}
    (shows : shown.Shows s) (same : s.SamePlace t) : shown.Shows t := by
  obtain ⟨angles, elbow, hand, path⟩ := shows
  constructor
  · exact angles.trans same.angles.symm
  · rw [same.model, same.angles]
    exact elbow
  · rw [same.model, same.angles]
    exact hand
  · exact path.trans same.path.symm

/-! ## The world around a session -/

namespace World

variable [Scalar α]

omit [Scalar α] in
/-- The latest snapshot is the last one among the effects, if there is one. -/
theorem latest_foldl_absorb (effects : List (Effect α)) (w : World α) :
    (effects.foldl absorb w).latest =
      (effects.filterMap Effect.published?).getLast?.getD w.latest := by
  induction effects generalizing w with
  | nil => rfl
  | cons effect rest ih =>
    rw [List.foldl_cons, ih]
    cases effect with
    | answered ticket result => rfl
    | broadcast event => rfl
    | published shown =>
      have there : Effect.published? (.published shown) = some shown := rfl
      rw [List.filterMap_cons_some there, List.getLast?_cons, Option.getD_some]
      rfl
    | acknowledged ack aborted => rfl

theorem latest_act (w : World α) (action : Action α) :
    (w.act action).latest =
      if action.publishes then (w.act action).session.simulator.snapshot else w.latest := by
  have absorbed : w.act action = (w.session.step action).2.toList.foldl absorb
      { w with session := (w.session.step action).1 } := by
    rw [Array.foldl_toList]
    rfl
  rw [(w.act_eq action).1, absorbed, latest_foldl_absorb, Session.published_step]
  split <;> rfl

/-- Whoever looks at the snapshot after an action that publishes sees the simulator as it is. -/
theorem mirrors_latest (w : World α) {action : Action α} (publishes : action.publishes = true) :
    (w.act action).latest.Mirrors (w.act action).session.simulator := by
  have latest := w.latest_act action
  rw [if_pos publishes] at latest
  exact latest ▸ Simulator.mirrors_snapshot _

/-- What the latest snapshot shows of the joints and of the path is up to date, and it is
consistent, as is everything that could be published now. -/
structure Shown (w : World α) : Prop where
  settled : w.session.simulator.Settled
  traced : w.session.simulator.Traced
  shows : w.latest.Shows w.session.simulator
  consistent : w.latest.Consistent

namespace Shown

variable {w : World α}

theorem create (m : ArmModel α) (speed maxStep : α) (reportCapacity : Nat) :
    (World.create (.withSpeed m speed) maxStep reportCapacity).Shown where
  settled := fun _ => rfl
  traced := .of_empty rfl
  shows := (Simulator.mirrors_snapshot _).toShows
  consistent := Simulator.consistent_snapshot (fun _ => rfl) (.of_empty rfl)

theorem simulator (shown : w.Shown) (action : Action α) :
    (w.session.step action).1.simulator.Settled ∧ (w.session.step action).1.simulator.Traced := by
  rw [Session.simulator_step]
  exact @History.run_keeps α _ (fun h => h.simulator.Settled ∧ h.simulator.Traced)
    (fun _ operation kept => ⟨kept.1.after operation, kept.2.after operation⟩) _
    ⟨shown.settled, shown.traced⟩ _

theorem act (shown : w.Shown) (action : Action α) : (w.act action).Shown := by
  obtain ⟨settled, traced⟩ := shown.simulator action
  have session := (w.act_eq action).1
  have latest := w.latest_act action
  rw [session] at latest
  cases publishes : action.publishes with
  | true =>
    rw [publishes, if_pos rfl] at latest
    have shows := (Simulator.mirrors_snapshot (w.session.step action).1.simulator).toShows
    have consistent := Simulator.consistent_snapshot settled traced
    rw [← latest] at shows consistent
    rw [← session] at settled traced shows
    exact ⟨settled, traced, shows, consistent⟩
  | false =>
    rw [publishes, if_neg Bool.false_ne_true] at latest
    have shows := shown.shows.of_same (w.session.effects_of_silent publishes).2
    have consistent := shown.consistent
    rw [← latest] at shows consistent
    rw [← session] at settled traced shows
    exact ⟨settled, traced, shows, consistent⟩

end Shown

/-- The world after actions of its session, one after the other. -/
def perform (w : World α) (actions : List (Action α)) : World α :=
  actions.foldl act w

theorem Shown.perform {w : World α} (shown : w.Shown) (actions : List (Action α)) :
    (w.perform actions).Shown := by
  induction actions generalizing w with
  | nil => exact shown
  | cons action rest ih => exact ih (shown.act action)

end World

/-- After any actions of a session, the latest snapshot shows the joints, the elbow, the hand and
the path as they are now. After a frame, when the path has been forgotten, and after an abort it is
a snapshot of the simulator as it is now, and shows whether a command runs and which, how many wait,
and the speed; nothing else publishes one. And every snapshot that is ever published is
consistent. -/
theorem latest_snapshot [Scalar α] (m : ArmModel α) (speed maxStep : α) (reportCapacity : Nat)
    (actions : List (Action α)) :
    let w := (World.create (.withSpeed m speed) maxStep reportCapacity).perform actions
    let s := w.session.simulator
    (w.latest.angles = s.angles ∧ w.latest.elbow = (forward s.model s.angles).elbow ∧
      w.latest.hand = (forward s.model s.angles).hand ∧ w.latest.path = s.path) ∧
    (∀ action : Action α, (w.act action).latest =
      if action.publishes then (w.act action).session.simulator.snapshot else w.latest) ∧
    (∀ action : Action α, action.publishes = true →
      let shown := (w.act action).latest
      let t := (w.act action).session.simulator
      shown.busy = t.isBusy ∧ shown.queueLength = t.queue.size ∧
        shown.speedScale = t.speedScale ∧ shown.current = t.current) ∧
    (w.latest.Consistent ∧ ∀ (action : Action α) (shown : Snapshot α),
      .published shown ∈ (w.session.step action).2 → shown.Consistent) := by
  intro w s
  have shown : w.Shown := (World.Shown.create m speed maxStep reportCapacity).perform actions
  obtain ⟨angles, elbow, hand, path⟩ := shown.shows
  refine ⟨⟨angles, elbow, hand, path⟩, w.latest_act, fun action publishes => ?_, shown.consistent,
    fun action snapshot mem => ?_⟩
  · obtain ⟨-, busy, queueLength, speedScale, current⟩ := w.mirrors_latest publishes
    exact ⟨busy, queueLength, speedScale, current⟩
  have published : snapshot ∈ (w.session.step action).2.toList.filterMap Effect.published? :=
    List.mem_filterMap.2 ⟨_, Array.mem_def.1 mem, rfl⟩
  rw [Session.published_step] at published
  split at published
  · obtain rfl := List.mem_singleton.1 published
    obtain ⟨settled, traced⟩ := shown.simulator action
    exact Simulator.consistent_snapshot settled traced
  · cases published

/-- Two naps are handed in and the speed is halved, and the snapshot shows nothing of it until the
path is forgotten. Then it shows that the first nap runs and that the other one waits. -/
theorem latest_snapshot_two_naps :
    let actions : List (Action Float) := [.request (.submit ⟨⟨"first"⟩, .sleep 1⟩ 0),
      .request (.submit ⟨⟨"second"⟩, .sleep 1⟩ 1), .request (.setSpeed 0.5)]
    let w := (World.create (.withSpeed .standard 1) 0.1 16).perform actions
    let shown := (w.act (.request .resetPath)).latest
    (w.latest.busy = false ∧ w.latest.queueLength = 0 ∧ w.latest.speedScale = 1 ∧
      w.latest.current = none) ∧
    (shown.busy = true ∧ shown.queueLength = 1 ∧ shown.speedScale = 0.5 ∧
      shown.current = some ⟨"first"⟩) := by
  intro actions w shown
  obtain ⟨-, -, mirrors, -⟩ := latest_snapshot (.standard : ArmModel Float) 1 0.1 16 actions
  obtain ⟨busy, queueLength, speedScale, current⟩ := mirrors (.request .resetPath) rfl
  refine ⟨⟨?_, ?_, ?_, ?_⟩, busy.trans ?_, queueLength.trans ?_, speedScale.trans ?_,
    current.trans ?_⟩ <;> decide +kernel

end PlanarArm
