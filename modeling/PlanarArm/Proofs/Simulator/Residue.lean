import PlanarArm.Proofs.Simulator.History
import PlanarArm.Proofs.Toolpath.Blocks
import PlanarArm.Scalar.Binary64
import PlanarArm.Simulator.Snapshot

/-!
# Nothing stays behind an abort

Whoever talks to a simulator sees what each operation answers (`Simulator.reply`) and, behind it, a
snapshot: together its `Simulator.transcript`. Once all commands have been aborted and the reports
collected, that depends on nothing but the arm, where its joints are, its speed scales and the points
of its path (`Simulator.Alike`): not on what ran or waited, and not on how the path lies in blocks,
since it has only been appended to (`Rooted`). And after a return to the start nothing tells the
simulator from a new one.

* `Rooted.run`: what every simulator keeps of where it comes from.
* `Simulator.Alike.stopped`: simulators that are alike are the same once they have been stopped.
* `no_residue`: what an abort reports and leaves, and what can be seen after it.
-/

namespace PlanarArm

variable {α : Type}

/-! ## What can be seen of a run -/

/-- The answer to whoever performs an operation. -/
inductive Reply (α : Type) where
  /-- There is nothing to say. -/
  | done
  /-- The command was refused. -/
  | refused (e : ArmError α)
  /-- So many commands were aborted. -/
  | aborted (count : Nat)
  /-- These are the reports that had not been collected. -/
  | reports (events : Array (CompletionEvent α))

namespace Simulator

variable [Scalar α]

/-- What an operation answers. -/
def reply (s : Simulator α) : Operation α → Reply α
  | .enqueue c =>
    match s.enqueue c with
    | .ok _ => .done
    | .error e => .refused e
  | .tick _ | .setSpeed _ | .resetPath => .done
  | .stop => .aborted s.stop.2
  | .hardReset => .aborted s.hardReset.2
  | .drain => .reports s.drain.1

/-- The simulator after an operation. -/
def next (s : Simulator α) (operation : Operation α) : Simulator α :=
  ((History.start s).after operation).simulator

/-- The answers to operations performed one after the other, each with what can be seen then. -/
def transcript (s : Simulator α) : List (Operation α) → List (Reply α × Snapshot α)
  | [] => []
  | operation :: later =>
    (s.reply operation, (s.next operation).snapshot) :: (s.next operation).transcript later

end Simulator

/-! ## Where a simulator comes from -/

/-- The simulator has this arm and starts from this speed scale, and its path has only been appended
to. -/
structure Rooted (m : ArmModel α) (speed : α) (s : Simulator α) : Prop where
  model : s.model = m
  initialSpeed : s.initialSpeed = speed
  path : s.path.Grown

namespace Rooted

variable {m : ArmModel α} {speed : α} {s t : Simulator α}

theorem of_same (rooted : Rooted m speed s) (model : t.model = s.model)
    (initialSpeed : t.initialSpeed = s.initialSpeed) (path : t.path = s.path) :
    Rooted m speed t :=
  ⟨model.trans rooted.model, initialSpeed.trans rooted.initialSpeed, path ▸ rooted.path⟩

theorem of_empty (rooted : Rooted m speed s) (model : t.model = s.model)
    (initialSpeed : t.initialSpeed = s.initialSpeed) (path : t.path = .empty) :
    Rooted m speed t :=
  ⟨model.trans rooted.model, initialSpeed.trans rooted.initialSpeed, path ▸ .empty⟩

variable [Scalar α]

theorem place (rooted : Rooted m speed s) (angles : JointPair α) :
    Rooted m speed (s.place angles) :=
  ⟨rooted.model, rooted.initialSpeed, rooted.path.push _⟩

theorem step (step : s.Step t) (rooted : Rooted m speed s) : Rooted m speed t := by
  cases step with
  | begin => exact rooted.of_same rfl rfl rfl
  | replace => exact rooted.of_same rfl rfl rfl
  | settle => exact rooted.of_same rfl rfl rfl
  | wait => exact rooted.of_same rfl rfl rfl
  | @move r angles dt busy stage =>
    exact (rooted.place angles).of_same rfl rfl rfl
  | @arrive r angles completion dt busy stage =>
    exact (rooted.place angles).of_same rfl rfl rfl
  | elapse => exact rooted.of_same rfl rfl rfl

theorem invariant : Simulator.Invariant (Rooted m speed) where
  step := step
  push c rooted := rooted.of_same rfl rfl rfl
  setSpeed value rooted := rooted.of_same rfl rfl rfl
  resetPath rooted := rooted.of_empty rfl rfl rfl
  stop rooted := by
    rw [Simulator.stop_eq]
    exact rooted.of_same rfl rfl rfl
  hardReset rooted := by
    rw [Simulator.hardReset_eq, Simulator.stop_eq]
    exact rooted.of_empty rfl rfl rfl
  drain rooted := rooted.of_same rfl rfl rfl

theorem run (m : ArmModel α) (speed : α) (operations : List (Operation α)) :
    Rooted m (clampSpeed speed)
      ((History.start (.withSpeed m speed)).run operations).simulator :=
  invariant.run (h := .start (.withSpeed m speed)) ⟨rfl, rfl, .empty⟩ operations

end Rooted

/-! ## Behind an abort -/

/-- The same arm with its joints at the same angles, the same speed scales and the same points
behind the hand, whatever runs or waits. -/
structure Simulator.Alike (s t : Simulator α) : Prop where
  model : t.model = s.model
  initialSpeed : t.initialSpeed = s.initialSpeed
  angles : t.angles = s.angles
  speedScale : t.speedScale = s.speedScale
  points : t.path.toList = s.path.toList

/-- Simulators that are alike are the same once they have been stopped and their reports have been
collected. -/
theorem Simulator.Alike.stopped {s t : Simulator α} (alike : s.Alike t) (first : s.path.Grown)
    (second : t.path.Grown) : t.stop.1.drain.2 = s.stop.1.drain.2 := by
  have path : t.path = s.path := second.ext first alike.points
  rw [stop_eq, stop_eq, drain, drain, alike.model, alike.initialSpeed, alike.angles,
    alike.speedScale, path]

/-- A speed scale stands for itself. -/
theorem clampSpeed_clampSpeed (value : Float) :
    clampSpeed (clampSpeed value) = clampSpeed value := by
  have cases : clampSpeed value = 1.0 ∨ clampSpeed value = 0.0 ∨ clampSpeed value = value := by
    unfold clampSpeed standardSpeedScale Scalar.clamp
    split_ifs <;> simp
  rcases cases with one | zero | same
  · rw [one]
    decide
  · rw [zero]
    decide
  · rw [same, same]

/-- A return to the start leaves a new simulator, apart from the reports. -/
theorem Rooted.hardReset_eq {m : ArmModel Float} {speed : Float} {s : Simulator Float}
    (rooted : Rooted m (clampSpeed speed) s) :
    s.hardReset = ({ Simulator.withSpeed m speed with outbox := s.stop.1.outbox }, s.stop.2) := by
  refine Prod.ext ?_ rfl
  rw [Simulator.hardReset_eq, Simulator.stop_eq, rooted.initialSpeed, rooted.model]
  rfl

/-- In every state of every run: stopping reports each aborted command once, the running one first
and then the waiting ones in order, behind the reports that have not been collected; it returns
their number, leaves none running or waiting, and changes nothing else. A return to the start does
the same, and leaves a new simulator apart from the reports. So once the reports have been collected,
whatever is done next is answered as it would be by any other stopped simulator that is alike, and
after a return to the start as it would be by a new one. -/
theorem no_residue (m : ArmModel Float) (speed : Float) (operations : List (Operation Float)) :
    let s := ((History.start (.withSpeed m speed)).run operations).simulator
    let aborted := s.current.toList ++ s.queue.ids
    s.stop = ({ s with
      running := none
      queue := .empty
      outbox := s.outbox ++ (aborted.map CompletionEvent.aborted).toArray }, aborted.length) ∧
    s.hardReset = ({ Simulator.withSpeed m speed with outbox := s.stop.1.outbox }, s.stop.2) ∧
    (∀ (m' : ArmModel Float) (speed' : Float) (others : List (Operation Float)),
      let t := ((History.start (.withSpeed m' speed')).run others).simulator
      s.Alike t → ∀ later,
        t.stop.1.drain.2.transcript later = s.stop.1.drain.2.transcript later) ∧
    ∀ later, s.hardReset.1.drain.2.transcript later =
      (Simulator.withSpeed s.model s.initialSpeed).transcript later := by
  intro s aborted
  have rooted : Rooted m (clampSpeed speed) s := .run m speed operations
  refine ⟨Prod.ext s.stop_eq rfl, rooted.hardReset_eq, fun m' speed' others => ?_, fun later => ?_⟩
  · intro t alike later
    have other : Rooted m' (clampSpeed speed') t := .run m' speed' others
    rw [alike.stopped rooted.path other.path]
  · have fresh : Simulator.withSpeed m (clampSpeed speed) = .withSpeed m speed := by
      unfold Simulator.withSpeed
      rw [clampSpeed_clampSpeed]
    rw [rooted.hardReset_eq, rooted.model, rooted.initialSpeed, fresh]
    rfl

/-- A nap on one arm, and a longer one on another, with a way home waiting behind it. -/
theorem no_residue_naps :
    let s := ((History.start (.withSpeed (.standard : ArmModel Float) 1.0)).run
      [.enqueue ⟨⟨"nap"⟩, .sleep 1.0⟩]).simulator
    let t := ((History.start (.withSpeed (.standard : ArmModel Float) 1.0)).run
      [.enqueue ⟨⟨"long nap"⟩, .sleep 2.0⟩, .enqueue ⟨⟨"way"⟩, .home⟩]).simulator
    s.Alike t ∧ s.pendingIds = [⟨"nap"⟩] ∧ t.pendingIds = [⟨"long nap"⟩, ⟨"way"⟩] ∧
      ∀ later, t.stop.1.drain.2.transcript later = s.stop.1.drain.2.transcript later := by
  intro s t
  let fresh : Simulator Float := .withSpeed .standard 1.0
  have asleep (id : String) (seconds : Float) (finite : Scalar.isFinite seconds = true) :
      (History.start fresh).after (.enqueue ⟨⟨id⟩, .sleep seconds⟩) =
        ⟨{ fresh with running := some (.begin ⟨id⟩ (.sleep (Scalar.maxNum seconds 0.0))) },
          [⟨⟨id⟩, .sleep seconds⟩], []⟩ := by
    have valid : (CommandKind.sleep seconds).check = .ok () := by
      simp [CommandKind.check, CommandKind.fault?, CommandKind.numbers, finite]
    exact History.after_enqueue_of_idle rfl rfl valid rfl
  have short : s = { fresh with
      running := some (.begin ⟨"nap"⟩ (.sleep (Scalar.maxNum 1.0 0.0))) } :=
    congrArg History.simulator (asleep "nap" 1.0 (by decide))
  have long : t = { fresh with
      running := some (.begin ⟨"long nap"⟩ (.sleep (Scalar.maxNum 2.0 0.0)))
      queue := fresh.queue.push ⟨⟨"way"⟩, .home⟩ } :=
    congrArg History.simulator
      ((congrArg (fun h => h.after (.enqueue ⟨⟨"way"⟩, .home⟩))
        (asleep "long nap" 2.0 (by decide))).trans (History.after_enqueue_of_running rfl rfl))
  have alike : s.Alike t := by
    rw [short, long]
    exact ⟨rfl, rfl, rfl, rfl, rfl⟩
  obtain ⟨-, -, same, -⟩ := no_residue .standard 1.0 [.enqueue ⟨⟨"nap"⟩, .sleep 1.0⟩]
  refine ⟨alike, ?_, ?_, same .standard 1.0
    [.enqueue ⟨⟨"long nap"⟩, .sleep 2.0⟩, .enqueue ⟨⟨"way"⟩, .home⟩] alike⟩
  · rw [short]
    rfl
  · rw [long]
    rfl

end PlanarArm
