import PlanarArm.Command.Basic

/-!
# Straight lines

The arm moves its joints and not its hand along straight lines. A straight line of the hand is
therefore replaced by points on it, equally far apart, each a command of its own.
-/

namespace PlanarArm

variable {α : Type} [Scalar α]

/-- The number of points that a line goes through when `steps` are asked for. -/
def lineCount (steps : Nat) : Nat :=
  max steps minLineSteps

/-- The `index`-th of `count` commands that take the hand from one point to another. -/
def lineStep (parent : CommandId) (source target : Point α) (count index : Nat) : Command α :=
  ⟨parent.sub index, .moveTo (source.lerp target (Scalar.ofNat index / Scalar.ofNat count))⟩

/-- The commands that take the hand from one point to another, numbered from 1. The last one goes to
the target itself. -/
def lineCommands (parent : CommandId) (source target : Point α) (steps : Nat) :
    List (Command α) :=
  (List.range (lineCount steps)).map fun i =>
    lineStep parent source target (lineCount steps) (i + 1)

@[simp]
theorem length_lineCommands (parent : CommandId) (source target : Point α) (steps : Nat) :
    (lineCommands parent source target steps).length = lineCount steps := by
  simp [lineCommands]

end PlanarArm
