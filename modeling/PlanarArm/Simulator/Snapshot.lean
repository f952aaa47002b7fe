import PlanarArm.Command.Record
import PlanarArm.Simulator.Basic

/-!
# Snapshots

What can be seen of a simulated arm at one moment.
-/

namespace PlanarArm

/-- What can be seen of a simulated arm. -/
structure Snapshot (α : Type) where
  /-- The joint angles. -/
  angles : JointPair α
  /-- Where the elbow is. -/
  elbow : Point α
  /-- Where the hand is. -/
  hand : Point α
  /-- The points that the hand has passed. -/
  path : Toolpath α
  /-- Whether a command runs. -/
  busy : Bool
  /-- The number of waiting commands. -/
  queueLength : Nat
  /-- The speed scale. -/
  speedScale : α
  /-- The identifier of the running command. -/
  current : Option CommandId

/-- What can be seen of the simulator now. -/
def Simulator.snapshot {α : Type} [Scalar α] (s : Simulator α) : Snapshot α :=
  let placement := s.placement
  { angles := s.angles
    elbow := placement.elbow
    hand := placement.hand
    path := s.path
    busy := s.isBusy
    queueLength := s.queue.size
    speedScale := s.speedScale
    current := s.current }

/-- The path as it is handed to whoever draws the arm: its points, whatever the blocks. -/
def Toolpath.toRecord (path : Toolpath Float) : Json :=
  .array (path.toList.map Point.toRecord)

namespace Snapshot

/-- The joint angles in degrees. -/
def degrees {α : Type} [Scalar α] (s : Snapshot α) : JointPair α :=
  s.angles.map Scalar.toDegrees

/-- The snapshot as it is handed to whoever draws the arm. -/
def toRecord (s : Snapshot Float) : Json :=
  .object [("q", .array [.ofFloat s.angles.shoulder, .ofFloat s.angles.elbow]),
    ("elbow", s.elbow.toRecord), ("effector", s.hand.toRecord),
    ("toolpath", s.path.toRecord),
    ("busy", .bool s.busy), ("queue_len", .ofNat s.queueLength),
    ("speed_scale", .ofFloat s.speedScale),
    ("current", match s.current with | some id => id.toRecord | none => .null)]

end Snapshot

end PlanarArm
