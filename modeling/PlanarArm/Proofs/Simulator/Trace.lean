import PlanarArm.Proofs.Simulator.Rest
import PlanarArm.Proofs.Simulator.Running
import PlanarArm.Proofs.Toolpath.Blocks

/-!
# The path as the trace of the hand

The angles of the joints and the path of the hand are kept apart and are changed by different
operations. They belong together all the same: a tick during a motion leaves the point at which the
hand then is, whatever else the tick may start, and nothing else leaves one.

* `Simulator.pass_path`: what time does to the path.
* `History.points_after`: what each operation leaves of the path.
* `path_traces_hand`: all of it together, in every state of every run.
-/

namespace PlanarArm

variable {α : Type}

/-- Whether the command moves the joints. -/
def Running.moves (r : Running α) : Bool :=
  match r.activity with
  | .motion _ => true
  | .sleep _ => false

/-- Whether a motion is under way. -/
def Simulator.moves (s : Simulator α) : Bool :=
  s.running.any Running.moves

namespace Running

variable {r : Running α}

theorem moves_of_motion {p : Motion α} (motion : r.activity = .motion p) : r.moves = true := by
  rw [moves, motion]

theorem moves_of_sleep {duration : α} (sleep : r.activity = .sleep duration) :
    r.moves = false := by
  rw [moves, sleep]

end Running

theorem Simulator.moves_of_running {s : Simulator α} {r : Running α}
    (busy : s.running = some r) : s.moves = r.moves := by
  rw [moves, busy, Option.any_some]

variable [Scalar α]

/-- The points that an operation is to leave: the tick of a motion adds the point at which the hand
then is, a reset forgets all of them, and nothing else concerns them. -/
def History.pointsLeft (h : History α) (operation : Operation α) : List (Point α) :=
  let before := h.simulator.path.toList
  match operation with
  | .tick _ =>
    if h.simulator.moves then before ++ [(h.after operation).simulator.placement.hand] else before
  | .resetPath | .hardReset => []
  | _ => before

/-! ## Ticks -/

namespace Simulator

/-- Time leaves a point if and only if a motion is under way, and it is the one at which the hand
then is. -/
theorem pass_path (s : Simulator α) (dt : α) :
    (s.pass dt).path =
      if s.moves then s.path.push (s.pass dt).placement.hand else s.path := by
  cases busy : s.running with
  | none =>
    have idle : s.moves = false := by rw [moves, busy, Option.any_none]
    rw [idle, if_neg Bool.false_ne_true, pass, busy]
  | some r =>
    rw [moves_of_running busy]
    unfold pass
    rw [busy]
    dsimp only
    cases stage : (r.after (tickTime dt)).stage with
    | waiting =>
      obtain ⟨duration, sleep⟩ := Running.sleep_of_waiting stage
      rw [Running.moves_of_sleep (r := r) sleep, if_neg Bool.false_ne_true]
    | moved angles =>
      obtain ⟨p, u, motion, -⟩ := Running.motion_of_moved stage
      rw [Running.moves_of_motion (r := r) motion, if_pos rfl]
      rfl
    | arrived angles completion =>
      obtain ⟨p, motion, -, -⟩ := Running.motion_of_arrived stage
      rw [Running.moves_of_motion (r := r) motion, if_pos rfl]
      rfl
    | elapsed =>
      obtain ⟨duration, sleep⟩ := Running.sleep_of_elapsed stage
      rw [Running.moves_of_sleep (r := r) sleep, if_neg Bool.false_ne_true]
      rfl

/-- The commands that a tick starts leave the hand where it is, and leave no point. -/
theorem tick_path (s : Simulator α) (dt : α) :
    (s.tick dt).path =
      if s.moves then s.path.push (s.tick dt).placement.hand else s.path := by
  have hand : (s.tick dt).placement = (s.pass dt).placement := by
    rw [placement, placement, tick_angles, tick_eq, (steps_startNext _).kept.1]
  rw [hand, ← pass_path, tick_eq, startNext_path]

/-! ## How the path lies in blocks -/

/-- However long the run, the path is one that has only been appended to since it was empty. -/
theorem grown_invariant : Invariant (α := α) fun s => s.path.Grown where
  step {s t} step grown := by
    cases step with
    | begin idle next plan => exact grown
    | replace idle next plan => exact grown
    | settle idle next plan => exact grown
    | wait dt busy stage => exact grown
    | move dt busy stage => exact grown.push _
    | arrive dt busy stage => exact grown.push _
    | elapse dt busy stage => exact grown
  push _ grown := grown
  setSpeed _ grown := grown
  resetPath _ := .empty
  stop {s} grown := by
    rw [s.stop_still.path]
    exact grown
  hardReset {s} _ := by
    rw [hardReset_eq]
    exact .empty
  drain grown := grown

end Simulator

/-! ## Operations -/

/-- What each operation leaves of the path. -/
theorem History.points_after (h : History α) (operation : Operation α) :
    (h.after operation).simulator.path.toList = h.pointsLeft operation := by
  cases operation with
  | enqueue c =>
    unfold History.after pointsLeft
    dsimp only
    split
    · next t taken => rw [(Simulator.enqueue_still taken).path]
    · rfl
  | tick dt =>
    have ticked : (h.after (.tick dt)).simulator = h.simulator.tick dt := rfl
    unfold pointsLeft
    rw [ticked, Simulator.tick_path]
    dsimp only
    split
    · rw [Toolpath.toList_push]
    · rfl
  | setSpeed value => rfl
  | resetPath => rfl
  | stop =>
    have still := h.simulator.stop_still.path
    exact congrArg Toolpath.toList still
  | hardReset =>
    have emptied : (h.after .hardReset).simulator.path = .empty := by
      rw [after, Simulator.hardReset_eq]
    rw [emptied]
    rfl
  | drain => rfl

/-- In every state of every run from a fresh arm, the path is empty or its latest point is the one
at which the hand is, and whatever can be asked of the path has the answer that the list of its
points gives. The next operation leaves the points that it is to leave: a tick adds one if a motion
was under way when it began and none otherwise, the two resets leave none, and any other operation
leaves all of them as they are. -/
theorem path_traces_hand (m : ArmModel α) (speed : α) (operations : List (Operation α)) :
    let h := (History.start (.withSpeed m speed)).run operations
    let path := h.simulator.path
    (path.isEmpty = true ∨ path.last? = some (forward m h.simulator.angles).hand) ∧
    path.Represents path.toList ∧
    ∀ operation, (h.after operation).simulator.path.toList = h.pointsLeft operation := by
  intro h path
  have grown : path.Grown :=
    Simulator.grown_invariant.run (h := .start (.withSpeed m speed)) .empty operations
  have shown : path.Represents path.toList := by
    have listed := Toolpath.represents_ofList path.toList
    rwa [← grown] at listed
  have traced : h.simulator.Traced :=
    Simulator.Traced.invariant.run (h := .start (.withSpeed m speed)) (.of_empty rfl) operations
  refine ⟨?_, shown, h.points_after⟩
  rw [shown.isEmpty, shown.last, List.isEmpty_iff]
  cases latest : path.toList.getLast? with
  | none => exact .inl (List.getLast?_eq_none_iff.1 latest)
  | some p =>
    have same : h.simulator.model = m := History.model_run m speed operations
    have here : p = (forward m h.simulator.angles).hand := by
      rw [← same]
      exact traced p latest
    exact .inr (congrArg some here)

end PlanarArm
