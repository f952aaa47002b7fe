import PlanarArm.Scalar.Basic

/-!
# Points of the plane

Points in the frame of the arm's base, in metres.
-/

namespace PlanarArm

/-- A point of the plane. -/
structure Point (α : Type) where
  /-- The abscissa. -/
  x : α
  /-- The ordinate. -/
  y : α
deriving Repr

namespace Point

variable {α : Type} [Scalar α]

/-- The base of the arm. -/
def origin : Point α :=
  ⟨0.0, 0.0⟩

/-- The distance from the base. -/
def norm (p : Point α) : α :=
  Scalar.hypot p.x p.y

/-- The point that lies the fraction `t` of the way from `p` to `q`. From `t = 1` on it is `q`
itself, without any rounding. -/
def lerp (p q : Point α) (t : α) : Point α :=
  if (1.0 : α) ≤ t then q
  else ⟨p.x + (q.x - p.x) * t, p.y + (q.y - p.y) * t⟩

/-- Whether two points are equal, coordinate by coordinate. -/
def same (p q : Point α) : Bool :=
  Scalar.same p.x q.x && Scalar.same p.y q.y

end Point

end PlanarArm
