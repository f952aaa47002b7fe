import PlanarArm.Scalar.Basic

/-!
# Joint angles and their ranges

An arm has two joints. Angles are in radians, the elbow's relative to the first link.
-/

namespace PlanarArm

/-- One number for each joint. -/
structure JointPair (α : Type) where
  /-- The joint at the base. -/
  shoulder : α
  /-- The joint between the links. -/
  elbow : α
deriving Repr

namespace JointPair

variable {α β : Type}

/-- Applies `f` to both joints. -/
def map (f : α → β) (q : JointPair α) : JointPair β :=
  ⟨f q.shoulder, f q.elbow⟩

/-- Both joints at angle zero. -/
def home [Scalar α] : JointPair α :=
  ⟨0.0, 0.0⟩

end JointPair

/-- The angles that a joint may take, both ends included. -/
structure JointRange (α : Type) where
  /-- The least angle. -/
  lo : α
  /-- The greatest angle. -/
  hi : α
deriving Repr

namespace JointRange

variable {α : Type} [Scalar α]

/-- The range whose ends are given in degrees. -/
def ofDegrees (lo hi : α) : JointRange α :=
  ⟨Scalar.ofDegrees lo, Scalar.ofDegrees hi⟩

/-- Whether an angle lies in the range. -/
def contains (r : JointRange α) (angle : α) : Bool :=
  decide (r.lo ≤ angle) && decide (angle ≤ r.hi)

/-- Whether the range has finite ends in order, and so is not empty. -/
def isValid (r : JointRange α) : Bool :=
  Scalar.isFinite r.lo && Scalar.isFinite r.hi && !decide (r.hi < r.lo)

/-- The angle of the range that is nearest to `angle`. An empty range has none. -/
def clamp? (r : JointRange α) (angle : α) : Option α :=
  if r.lo ≤ r.hi then some (Scalar.clamp r.lo r.hi angle) else none

end JointRange

end PlanarArm
