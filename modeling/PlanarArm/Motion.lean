import PlanarArm.Arm.Kinematics

/-!
# Motions of the joints

A motion takes both joints along a straight line from one pair of angles to another. The joint with
the longer way sets its duration (`motionTime`), and an ease (`smoothstep`) makes it start and end
at rest. A motion under way can be re-timed: `Motion.retime` keeps its progress.
-/

namespace PlanarArm

variable {α : Type} [Scalar α]

/-! ## Speed and time -/

/-- The least time that a motion takes, in seconds, so that even one without a way is seen. -/
def minMotionTime : α :=
  0.08

/-- The least speed scale that motions are timed with. -/
def minSpeedScale : α :=
  0.05

/-- The speed scale of a simulation that was given none. -/
def standardSpeedScale : α :=
  1.0

/-- The speed scale that a requested one stands for: the nearest in `[0, 1]`, and the standard one
for no number. -/
def clampSpeed (value : α) : α :=
  if Scalar.isNaN value then standardSpeedScale else Scalar.clamp 0.0 1.0 value

/-- The time that the joints need from `start` to `target` at a speed scale. -/
def motionTime (m : ArmModel α) (start target : JointPair α) (scale : α) : α :=
  let way := Scalar.maxNum (Scalar.abs (target.shoulder - start.shoulder))
    (Scalar.abs (target.elbow - start.elbow))
  let speed := m.maxSpeed * Scalar.clamp minSpeedScale 1.0 scale
  Scalar.maxNum (way / speed) minMotionTime

/-! ## Ease and interpolation -/

/-- The ease `u² (3 - 2u)` on the unit interval; outside of it, its value at the nearer end. -/
def smoothstep (u : α) : α :=
  let u := Scalar.clamp 0.0 1.0 u
  u * u * (3.0 - 2.0 * u)

/-- The joint angles at the fraction `s` of the way from `a` to `b`. -/
def JointPair.lerp (a b : JointPair α) (s : α) : JointPair α :=
  ⟨a.shoulder + (b.shoulder - a.shoulder) * s, a.elbow + (b.elbow - a.elbow) * s⟩

/-! ## Motions -/

/-- A timed motion. -/
structure Motion (α : Type) where
  /-- The joint angles that it starts at. -/
  start : JointPair α
  /-- The joint angles that it ends at. -/
  target : JointPair α
  /-- The time it takes, in seconds. -/
  duration : α
  /-- The branch that led to the target, if it was given as a point. -/
  branch : Option Branch
deriving Repr

namespace Motion

/-- The motion from `start` to `target`, timed for a speed scale. -/
def timed (m : ArmModel α) (start target : JointPair α) (scale : α) (branch : Option Branch) :
    Motion α :=
  ⟨start, target, motionTime m start target scale, branch⟩

/-- The part of the motion that is done after a time, between 0 and 1. -/
def progress (p : Motion α) (elapsed : α) : α :=
  Scalar.clamp 0.0 1.0 (elapsed / p.duration)

/-- The joint angles when the part `u` of the motion is done; exactly the target from 1 on. -/
def anglesAt (p : Motion α) (u : α) : JointPair α :=
  if (1.0 : α) ≤ u then p.target else p.start.lerp p.target (smoothstep u)

/-- The motion timed for another speed scale, and the elapsed time at which it has made the same
progress as this one after `elapsed`. -/
def retime (p : Motion α) (m : ArmModel α) (elapsed scale : α) : Motion α × α :=
  let duration := motionTime m p.start p.target scale
  (⟨p.start, p.target, duration, p.branch⟩, p.progress elapsed * duration)

end Motion

end PlanarArm
