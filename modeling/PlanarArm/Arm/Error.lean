import PlanarArm.Arm.Point

/-!
# What a command or its transport can fail with
-/

namespace PlanarArm

/-- The reason why a command did not succeed, or was not even accepted. -/
inductive ArmError (α : Type) where
  /-- The target is farther away, or nearer to the base, than the links allow. -/
  | unreachable (target : Point α)
  /-- Neither way to bend the elbow keeps both joints in their ranges. -/
  | jointLimits (target : Point α)
  /-- No command has this name. -/
  | unknownCommand (name : String)
  /-- The command was aborted. -/
  | stopped
  /-- The request makes no sense. -/
  | invalidArgument (reason : String)
  /-- The other side does not answer. -/
  | channel (reason : String)
  /-- A joint of an unchecked arm has an empty range, in which no angle is nearest. -/
  | emptyRange
deriving Repr

namespace ArmError

variable {α : Type}

/-- The word for the error in completion messages. -/
def code : ArmError α → String
  | .unreachable _ => "unreachable"
  | .jointLimits _ => "joint-limits"
  | .unknownCommand _ => "unknown-cmd"
  | .stopped => "stopped"
  | .invalidArgument _ => "invalid-argument"
  | .channel _ => "channel"
  | .emptyRange => "empty-range"

/-- Whether the error is a failure of the transport and not of the command. -/
def isChannel : ArmError α → Bool
  | .channel _ => true
  | _ => false

/-- A point in parentheses. -/
def pointText [Scalar α] (p : Point α) : String :=
  "(" ++ Scalar.text p.x ++ ", " ++ Scalar.text p.y ++ ")"

/-- The error in words. -/
def message [Scalar α] : ArmError α → String
  | .unreachable target => "Unreachable target " ++ pointText target
  | .jointLimits target => "Joint limits exceeded by both IK branches for " ++ pointText target
  | .unknownCommand name => "Unknown command kind '" ++ name ++ "'"
  | .stopped => "Command stopped"
  | .invalidArgument reason => "Invalid argument: " ++ reason
  | .channel reason => "Channel error: " ++ reason
  | .emptyRange => "Joint range is empty"

end ArmError

end PlanarArm
