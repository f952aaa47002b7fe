import Mathlib.Data.List.Induction
import PlanarArm.Toolpath.Basic

/-!
# Paths in blocks

A path in blocks stands for the plain list of its points (`Toolpath.Represents`): whatever can be
asked of it has the answer that the list gives, its full blocks are full, and its last block is not.
`Toolpath.ofList` is the path that comes of appending points one after the other.

* `Toolpath.represents_ofList`: such a path stands for these points.
* `Toolpath.Grown.ext`: a path that has only been appended to is known by its points, so that no
  two such paths show the same points in different blocks.
-/

namespace PlanarArm

variable {α : Type}

namespace Toolpath

/-- The path stands for these points. -/
structure Represents (path : Toolpath α) (points : List (Point α)) : Prop where
  toList : path.toList = points
  size : path.size = points.length
  isEmpty : path.isEmpty = points.isEmpty
  last : path.last? = points.getLast?
  full : ∀ block ∈ path.full, block.size = blockSize
  tail : path.tail.size < blockSize

/-- The path that comes of appending points one after the other. -/
def ofList (points : List (Point α)) : Toolpath α :=
  points.foldl push empty

/-! ## What a further point does -/

theorem push_of_filled {path : Toolpath α} {p : Point α}
    (filled : path.tail.size + 1 = blockSize) :
    path.push p = ⟨path.full.push (path.tail.push p), #[], path.size + 1⟩ := by
  unfold push
  dsimp only
  rw [if_pos ((Array.size_push p).trans filled)]

theorem push_of_room {path : Toolpath α} {p : Point α} (room : path.tail.size + 1 ≠ blockSize) :
    path.push p = ⟨path.full, path.tail.push p, path.size + 1⟩ := by
  unfold push
  dsimp only
  rw [if_neg fun filled => room ((Array.size_push p).symm.trans filled)]

theorem size_push (path : Toolpath α) (p : Point α) : (path.push p).size = path.size + 1 := by
  unfold push
  dsimp only
  split <;> rfl

/-- The latest point is found at the end of the tail, or of the block that it has closed. -/
theorem last?_push (path : Toolpath α) (p : Point α) : (path.push p).last? = some p := by
  unfold push
  dsimp only
  split <;> simp [last?]

theorem full_push {path : Toolpath α} (full : ∀ block ∈ path.full, block.size = blockSize)
    (p : Point α) : ∀ block ∈ (path.push p).full, block.size = blockSize := by
  unfold push
  dsimp only
  split
  · next filled =>
    intro block mem
    rcases Array.mem_push.1 mem with old | rfl
    · exact full block old
    · exact filled
  · exact full

theorem tail_push {path : Toolpath α} (short : path.tail.size < blockSize) (p : Point α) :
    (path.push p).tail.size < blockSize := by
  unfold push
  dsimp only
  split
  · exact Nat.zero_lt_of_lt short
  · next open_ =>
    rw [Array.size_push] at open_
    rw [Array.size_push]
    omega

/-! ## Paths and lists -/

theorem isEmpty_of_size {path : Toolpath α} {points : List (Point α)}
    (size : path.size = points.length) : path.isEmpty = points.isEmpty := by
  unfold isEmpty
  rw [size]
  cases points <;> rfl

namespace Represents

theorem empty : (Toolpath.empty : Toolpath α).Represents [] where
  toList := rfl
  size := rfl
  isEmpty := rfl
  last := rfl
  full := fun _ mem => absurd mem (Array.not_mem_empty _)
  tail := Nat.zero_lt_succ 255

theorem push {path : Toolpath α} {points : List (Point α)} (shown : path.Represents points)
    (p : Point α) : (path.push p).Represents (points ++ [p]) := by
  have size : (path.push p).size = (points ++ [p]).length := by
    rw [size_push, shown.size, List.length_append, List.length_singleton]
  refine ⟨?_, size, isEmpty_of_size size, ?_, full_push shown.full p, tail_push shown.tail p⟩
  · rw [toList_push, shown.toList]
  · rw [last?_push, List.getLast?_concat]

end Represents

@[simp]
theorem ofList_nil : (ofList [] : Toolpath α) = empty := rfl

@[simp]
theorem ofList_append (points : List (Point α)) (p : Point α) :
    ofList (points ++ [p]) = (ofList points).push p := by
  simp [ofList]

theorem represents_ofList (points : List (Point α)) : (ofList points).Represents points := by
  induction points using List.reverseRecOn with
  | nil => exact .empty
  | append_singleton points p ih =>
    rw [ofList_append]
    exact ih.push p

theorem length_eq_of_isEqv {β : Type} {f : β → β → Bool} {as bs : List β}
    (same : as.isEqv bs f = true) : as.length = bs.length := by
  induction as generalizing bs with
  | nil =>
    cases bs with
    | nil => rfl
    | cons b bs => cases same
  | cons a as ih =>
    cases bs with
    | nil => cases same
    | cons b bs =>
      rw [List.isEqv, Bool.and_eq_true] at same
      rw [List.length_cons, List.length_cons, ih same.2]

/-- Paths are equal if and only if their points are, one by one. -/
theorem same_ofList [Scalar α] (as bs : List (Point α)) :
    (ofList as).same (ofList bs) = as.isEqv bs Point.same := by
  have first := represents_ofList as
  have second := represents_ofList bs
  unfold same
  rw [first.size, second.size, first.toList, second.toList]
  cases equal : as.isEqv bs Point.same with
  | false => exact Bool.and_false _
  | true =>
    rw [length_eq_of_isEqv equal, beq_self_eq_true]
    rfl

/-! ## Paths that have only been appended to -/

/-- The path is what comes of appending its points one after the other. -/
def Grown (path : Toolpath α) : Prop :=
  path = ofList path.toList

namespace Grown

theorem empty : (Toolpath.empty : Toolpath α).Grown := rfl

theorem push {path : Toolpath α} (grown : path.Grown) (p : Point α) : (path.push p).Grown := by
  unfold Grown
  rw [toList_push, ofList_append, ← grown]

/-- The points of such a path settle how they lie in blocks. -/
theorem ext {a b : Toolpath α} (first : a.Grown) (second : b.Grown) (same : a.toList = b.toList) :
    a = b := by
  rw [first, second, same]

end Grown

end Toolpath

end PlanarArm
