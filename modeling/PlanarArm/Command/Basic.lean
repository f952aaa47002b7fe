import PlanarArm.Arm.Error
import PlanarArm.Arm.Joint
import PlanarArm.Command.Id

/-!
# Commands

What an arm can be told to do. `CommandKind.check` refuses numbers that are not finite, which no
command can act on.
-/

namespace PlanarArm

/-- What a command asks for. -/
inductive CommandKind (α : Type) where
  /-- Turn both joints to angle zero. -/
  | home
  /-- Turn the joints to these angles in degrees, or as near as their ranges allow. -/
  | setJoints (degrees : JointPair α)
  /-- Bring the hand to a point. -/
  | moveTo (target : Point α)
  /-- Do nothing for a time in seconds. -/
  | sleep (seconds : α)
  /-- Bring the hand to a point along a straight line, by way of that many points of it. -/
  | lineTo (target : Point α) (steps : Nat)
  /-- Something that the arm does not know; it fails when its turn comes. -/
  | unknown (name : String)
deriving Repr

/-- A command and its identifier. -/
structure Command (α : Type) where
  /-- The identifier under which its completion is reported. -/
  id : CommandId
  /-- What it asks for. -/
  kind : CommandKind α
deriving Repr

/-- The number of points that a straight line goes through when none is asked for. -/
def standardLineSteps : Nat :=
  50

/-- The least number of points that a straight line goes through. -/
def minLineSteps : Nat :=
  2

/-- The greatest number of points that a straight line goes through on request. -/
def maxLineSteps : Nat :=
  10000

/-- The number of points that a requested one stands for: its whole part, brought between the least
and the greatest number. No number counts as zero. -/
def lineSteps (requested : Float) : Nat :=
  max minLineSteps (min maxLineSteps requested.toUInt64.toNat)

namespace CommandKind

variable {α : Type}

/-- The name of the kind in messages. -/
def name : CommandKind α → String
  | .home => "HOME"
  | .setJoints _ => "SET_JOINTS"
  | .moveTo _ => "MOVE_TO"
  | .sleep _ => "SLEEP"
  | .lineTo .. => "LINE_TO"
  | .unknown name => name

/-- The numbers that a command carries, each with the name of its field. -/
def numbers : CommandKind α → List (String × α)
  | .setJoints q => [("deg[0]", q.shoulder), ("deg[1]", q.elbow)]
  | .moveTo p => [("x", p.x), ("y", p.y)]
  | .lineTo p _ => [("x", p.x), ("y", p.y)]
  | .sleep seconds => [("seconds", seconds)]
  | .home | .unknown _ => []

/-- The complaint about the first number that is not finite, if there is one. -/
def fault? [Scalar α] (kind : CommandKind α) : Option (ArmError α) :=
  (kind.numbers.find? fun field => !Scalar.isFinite field.2).map fun field =>
    .invalidArgument (kind.name ++ " field '" ++ field.1 ++ "' must be finite, got " ++
      Scalar.text field.2)

/-- Accepts a kind whose numbers are all finite. -/
def check [Scalar α] (kind : CommandKind α) : Except (ArmError α) Unit :=
  match kind.fault? with
  | some e => .error e
  | none => .ok ()

end CommandKind

end PlanarArm
