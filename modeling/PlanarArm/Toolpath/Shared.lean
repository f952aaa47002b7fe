import PlanarArm.Toolpath.Basic

/-!
# Paths that share their blocks

Several holders keep paths in one store. A copy of a path takes over the list of full blocks of the
one it is copied from, and both go on sharing it until one of them closes a block or forgets its
points. Each list counts its holders for that: it is written to only by a single holder, and copied
before that otherwise.

`PathStore.path?` is what a holder sees. Whether two holders share a list (`PathStore.shares`) is
seen from the lists they refer to.
-/

namespace PlanarArm

/-- A list of full blocks that paths may share. -/
structure BlockList (α : Type) where
  /-- The full blocks, oldest first. -/
  blocks : Array (Array (Point α))
  /-- The number of holders that refer to the list. -/
  count : Nat

/-- What one holder has of its own. -/
structure PathHolder (α : Type) where
  /-- The place of its list of full blocks in the store. -/
  list : Nat
  /-- The points behind the last full block. -/
  tail : Array (Point α)
  /-- The number of all its points. -/
  size : Nat

/-- Paths that share lists of full blocks. -/
structure PathStore (α : Type) where
  /-- The lists of full blocks. One that is without holders stays so. -/
  lists : Array (BlockList α)
  /-- The holders, by their numbers. -/
  holders : Array (PathHolder α)

variable {α : Type}

namespace BlockList

/-- A list without blocks and with one holder. -/
def fresh : BlockList α :=
  ⟨#[], 1⟩

/-- One more holder refers to the list. -/
def retain (l : BlockList α) : BlockList α :=
  ⟨l.blocks, l.count + 1⟩

/-- A holder no longer refers to the list. -/
def release (l : BlockList α) : BlockList α :=
  ⟨l.blocks, l.count - 1⟩

end BlockList

namespace PathStore

/-- No holders. -/
def empty : PathStore α :=
  ⟨#[], #[]⟩

/-- A further holder, of a path without points. -/
def create (s : PathStore α) : PathStore α :=
  ⟨s.lists.push .fresh, s.holders.push ⟨s.lists.size, #[], 0⟩⟩

/-- One holder of a path without points. -/
def single : PathStore α :=
  empty.create

/-- The full blocks of the list at a place. -/
def blocks (s : PathStore α) (list : Nat) : Array (Array (Point α)) :=
  match s.lists[list]? with
  | some l => l.blocks
  | none => #[]

/-- The path of a holder. -/
def path? (s : PathStore α) (holder : Nat) : Option (Toolpath α) :=
  (s.holders[holder]?).map fun h => ⟨s.blocks h.list, h.tail, h.size⟩

/-- A holder leaves its list and goes over to one of its own, with no points behind the blocks. -/
def renew (s : PathStore α) (holder : Nat) (h : PathHolder α) (blocks : Array (Array (Point α)))
    (size : Nat) : PathStore α :=
  ⟨(s.lists.modify h.list .release).push ⟨blocks, 1⟩,
    s.holders.setIfInBounds holder ⟨s.lists.size, #[], size⟩⟩

/-- Adds a block to the list of a holder, which then has no points behind it. A list with other
holders is left to them, and this one goes on with a copy. -/
def close (s : PathStore α) (holder : Nat) (h : PathHolder α) (block : Array (Point α)) :
    PathStore α :=
  match s.lists[h.list]? with
  | none => s
  | some l =>
    if l.count = 1 then
      ⟨s.lists.setIfInBounds h.list ⟨l.blocks.push block, 1⟩,
        s.holders.setIfInBounds holder ⟨h.list, #[], h.size + 1⟩⟩
    else s.renew holder h (l.blocks.push block) (h.size + 1)

/-- Appends a point to the path of a holder. -/
def push (s : PathStore α) (holder : Nat) (p : Point α) : PathStore α :=
  match s.holders[holder]? with
  | none => s
  | some h =>
    let tail := h.tail.push p
    if tail.size = blockSize then s.close holder h tail
    else ⟨s.lists, s.holders.setIfInBounds holder ⟨h.list, tail, h.size + 1⟩⟩

/-- A further holder, with a copy of the path of this one. -/
def copy (s : PathStore α) (holder : Nat) : PathStore α :=
  match s.holders[holder]? with
  | none => s
  | some h => ⟨s.lists.modify h.list .retain, s.holders.push h⟩

/-- A holder forgets its points, and leaves its list. -/
def clear (s : PathStore α) (holder : Nat) : PathStore α :=
  match s.holders[holder]? with
  | none => s
  | some h => s.renew holder h #[] 0

/-- Whether two holders refer to one list of full blocks. -/
def shares (s : PathStore α) (a b : Nat) : Bool :=
  match s.holders[a]?, s.holders[b]? with
  | some a, some b => a.list == b.list
  | _, _ => false

end PathStore

end PlanarArm
