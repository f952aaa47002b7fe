import PlanarArm.Arm.Error
import PlanarArm.Arm.Joint

/-!
# The arm

Two links in a plane, the first turning about the base and the second about the end of the first.
`ArmModel.create` accepts exactly the arms whose links and speed are positive and whose joint ranges
are not empty, all numbers finite.
-/

namespace PlanarArm

/-- The dimensions and the limits of an arm. -/
structure ArmModel (α : Type) where
  /-- The length of the first link, from the base to the elbow. -/
  link1 : α
  /-- The length of the second link, from the elbow to the hand. -/
  link2 : α
  /-- The range of the shoulder. -/
  shoulder : JointRange α
  /-- The range of the elbow. -/
  elbow : JointRange α
  /-- The greatest speed of either joint, in radians per second. -/
  maxSpeed : α
deriving Repr

namespace ArmModel

variable {α : Type} [Scalar α]

/-- Whether a number is finite and above zero. -/
def isPositive (x : α) : Bool :=
  Scalar.isFinite x && decide ((0.0 : α) < x)

/-- The complaint about the range of the joint with this number. -/
def rangeReason (joint : String) (r : JointRange α) : String :=
  "joint " ++ joint ++ " limits [" ++ Scalar.text r.lo ++ ", " ++ Scalar.text r.hi ++
    "] are not a valid range"

/-- The arm with these dimensions and limits, or what is wrong with them: the links are looked at
first, then the ranges, then the speed. -/
def create (link1 link2 : α) (shoulder elbow : JointRange α) (maxSpeed : α) :
    Except (ArmError α) (ArmModel α) :=
  if !(isPositive link1 && isPositive link2) then
    .error (.invalidArgument ("link lengths must be positive, got L1=" ++ Scalar.text link1 ++
      " L2=" ++ Scalar.text link2))
  else if !shoulder.isValid then .error (.invalidArgument (rangeReason "1" shoulder))
  else if !elbow.isValid then .error (.invalidArgument (rangeReason "2" elbow))
  else if !isPositive maxSpeed then
    .error (.invalidArgument ("max joint speed must be positive, got " ++ Scalar.text maxSpeed))
  else .ok ⟨link1, link2, shoulder, elbow, maxSpeed⟩

/-- An arm of 1 m and 0.75 m with a free shoulder, an elbow that bends by 150 degrees either way,
and joints that turn by two radians a second. -/
def standard : ArmModel α where
  link1 := 1.0
  link2 := 0.75
  shoulder := ⟨-Scalar.pi, Scalar.pi⟩
  elbow := .ofDegrees (-150.0) 150.0
  maxSpeed := 2.0

/-- The distance from the base that the hand can reach. -/
def maxReach (m : ArmModel α) : α :=
  m.link1 + m.link2

/-- The distance from the base that the hand has to keep. -/
def minReach (m : ArmModel α) : α :=
  Scalar.abs (m.link1 - m.link2)

/-- Whether both joint angles lie in their ranges. -/
def allows (m : ArmModel α) (q : JointPair α) : Bool :=
  m.shoulder.contains q.shoulder && m.elbow.contains q.elbow

/-- The joint angles nearest to `q` that lie in their ranges; none if a range is empty. -/
def clamp? (m : ArmModel α) (q : JointPair α) : Option (JointPair α) :=
  match m.shoulder.clamp? q.shoulder, m.elbow.clamp? q.elbow with
  | some shoulder, some elbow => some ⟨shoulder, elbow⟩
  | _, _ => none

end ArmModel

end PlanarArm
