import PlanarArm.Arm.Model

/-!
# From joint angles to the hand and back

`forward` places the elbow and the hand for given joint angles. `inverse` finds joint angles that
bring the hand to a point: in general there are two, which differ in the side that the elbow bends
to (`Branch`), and the one with the elbow down is taken if the joint ranges allow it.
-/

namespace PlanarArm

/-- The side to which the elbow bends. -/
inductive Branch where
  /-- The elbow turns in the positive sense. -/
  | elbowUp
  /-- The elbow turns in the negative sense. -/
  | elbowDown
deriving DecidableEq, Repr

/-- The word for a branch in messages. -/
def Branch.name : Branch → String
  | .elbowUp => "elbow-up"
  | .elbowDown => "elbow-down"

/-- Where the moving ends of the two links are. -/
structure Placement (α : Type) where
  /-- The end of the first link. -/
  elbow : Point α
  /-- The end of the second link. -/
  hand : Point α
deriving Repr

/-- Joint angles that reach a target. -/
structure Solution (α : Type) where
  /-- The angles of the branch that was chosen. -/
  angles : JointPair α
  /-- The angles of the other branch. -/
  other : JointPair α
  /-- The branch that was chosen. -/
  branch : Branch
deriving Repr

variable {α : Type} [Scalar α]

/-- The full angle. -/
def Scalar.fullTurn : α :=
  2.0 * Scalar.pi

/-- The angle in `(-π, π]` that differs from `angle` by whole turns. -/
def wrapAngle (angle : α) : α :=
  let a := Scalar.modulo angle Scalar.fullTurn
  if Scalar.pi < a then a - Scalar.fullTurn else a

/-- Where the links are for given joint angles. -/
def forward (m : ArmModel α) (q : JointPair α) : Placement α :=
  let elbow : Point α :=
    ⟨m.link1 * Scalar.cos q.shoulder, m.link1 * Scalar.sin q.shoulder⟩
  let heading := q.shoulder + q.elbow
  ⟨elbow, ⟨elbow.x + m.link2 * Scalar.cos heading, elbow.y + m.link2 * Scalar.sin heading⟩⟩

/-- The distance from ±1 at which the cosine of the elbow counts as ±1, so that rounding does not
put the edge of the reachable ring out of reach. -/
def snapWidth : α :=
  1e-9

/-- Replaces a cosine next to 1 or to -1 by it. -/
def snapCosine (c : α) : α :=
  if Scalar.abs (c - 1.0) < snapWidth then 1.0
  else if Scalar.abs (c + 1.0) < snapWidth then -1.0
  else c

/-- The cosine of the elbow angle that puts the hand at the distance of `target`, by the law of
cosines. -/
def elbowCosine (m : ArmModel α) (target : Point α) : α :=
  (target.x * target.x + target.y * target.y - m.link1 * m.link1 - m.link2 * m.link2) /
    (2.0 * m.link1 * m.link2)

/-- The joint angles with the given elbow angle that turn the hand towards `target`. -/
def aimed (m : ArmModel α) (target : Point α) (elbow : α) : JointPair α :=
  let shoulder := Scalar.atan2 target.y target.x -
    Scalar.atan2 (m.link2 * Scalar.sin elbow) (m.link1 + m.link2 * Scalar.cos elbow)
  ⟨wrapAngle shoulder, wrapAngle elbow⟩

/-- Joint angles that bring the hand to `target`. -/
def inverse (m : ArmModel α) (target : Point α) : Except (ArmError α) (Solution α) :=
  let c := snapCosine (elbowCosine m target)
  if decide ((-1.0 : α) ≤ c) && decide (c ≤ 1.0) then
    let s := Scalar.sqrt (Scalar.maxNum (1.0 - c * c) 0.0)
    let up := aimed m target (Scalar.atan2 s c)
    let down := aimed m target (Scalar.atan2 (-s) c)
    if m.allows down then .ok ⟨down, up, .elbowDown⟩
    else if m.allows up then .ok ⟨up, down, .elbowUp⟩
    else .error (.jointLimits target)
  else .error (.unreachable target)

end PlanarArm
