import PlanarArm.Arm.Point

/-!
# The path of the hand

The points that the hand has passed, oldest first. They are kept in blocks of `blockSize` points and
a last block that is not full, so that a copy of a long path shares all of its full blocks.

`Toolpath.toList` is the plain list of the points; one lemma for each operation says what it does to
that list.
-/

namespace PlanarArm

/-- The number of points in a full block. -/
def blockSize : Nat :=
  256

/-- The points that the hand has passed. -/
structure Toolpath (α : Type) where
  /-- The full blocks, oldest first. -/
  full : Array (Array (Point α))
  /-- The points behind the last full block. -/
  tail : Array (Point α)
  /-- The number of points, which is kept so that it need not be counted. -/
  size : Nat

namespace Toolpath

variable {α : Type}

/-- No points. -/
def empty : Toolpath α :=
  ⟨#[], #[], 0⟩

/-- All points, oldest first. -/
def toList (path : Toolpath α) : List (Point α) :=
  path.full.toList.flatMap Array.toList ++ path.tail.toList

/-- Appends a point; the last block is closed when it is full. -/
def push (path : Toolpath α) (p : Point α) : Toolpath α :=
  let tail := path.tail.push p
  if tail.size = blockSize then ⟨path.full.push tail, #[], path.size + 1⟩
  else ⟨path.full, tail, path.size + 1⟩

/-- Whether there are no points. -/
def isEmpty (path : Toolpath α) : Bool :=
  path.size == 0

/-- The latest point, which ends the last full block if none is behind it. -/
def last? (path : Toolpath α) : Option (Point α) :=
  path.tail.back?.or (path.full.back?.bind Array.back?)

/-- Whether two paths have equal points in the same order. -/
def same [Scalar α] (a b : Toolpath α) : Bool :=
  a.size == b.size && a.toList.isEqv b.toList Point.same

@[simp]
theorem toList_empty : (empty : Toolpath α).toList = [] := rfl

@[simp]
theorem toList_push (path : Toolpath α) (p : Point α) :
    (path.push p).toList = path.toList ++ [p] := by
  unfold push
  dsimp only
  split <;> simp [toList]

end Toolpath

end PlanarArm
