import PlanarArm.Toolpath.Shared
import Mathlib.Data.List.Count

/-!
# Holders and their lists

`PathStore.Step` says what an operation on paths that share their blocks can do: one constructor for
each way in which it ends. A holder comes with a list of its own or of another holder, lengthens its
tail, writes to its list because it is the only holder, or leaves its list for one of its own.

* `PathStore.Counted`: every list counts the holders that refer to it. This is what makes it safe to
  write to a list whose count is one.
* `PathStore.Counted.step`: every step keeps the counts right.
* `PathStore.Counted.unique`: a list whose count is one has no two holders.
-/

namespace PlanarArm

variable {α : Type}

/-- What can be done with paths that share their blocks. -/
inductive PathOperation (α : Type) where
  /-- A further holder comes, of a path without points. -/
  | create
  /-- A point is appended to the path of a holder. -/
  | push (holder : Nat) (p : Point α)
  /-- A further holder comes, with a copy of the path of this one. -/
  | copy (holder : Nat)
  /-- A holder forgets its points. -/
  | clear (holder : Nat)

/-- The holder that the operation asks for. -/
def PathOperation.holder? : PathOperation α → Option Nat
  | .create => none
  | .push holder _ | .copy holder | .clear holder => some holder

namespace PathStore

/-- The paths after an operation. -/
def after (s : PathStore α) : PathOperation α → PathStore α
  | .create => s.create
  | .push holder p => s.push holder p
  | .copy holder => s.copy holder
  | .clear holder => s.clear holder

/-- The paths after operations, performed one after the other. -/
def run (s : PathStore α) (operations : List (PathOperation α)) : PathStore α :=
  operations.foldl after s

/-- What an operation does. -/
inductive Step : PathStore α → PathOperation α → PathStore α → Prop
  | create {s : PathStore α} :
      Step s .create ⟨s.lists.push .fresh, s.holders.push ⟨s.lists.size, #[], 0⟩⟩
  | copy {s : PathStore α} {k : Nat} {h : PathHolder α} (found : s.holders[k]? = some h) :
      Step s (.copy k) ⟨s.lists.modify h.list .retain, s.holders.push h⟩
  | extend {s : PathStore α} {k : Nat} {h : PathHolder α} {p : Point α}
      (found : s.holders[k]? = some h) (room : h.tail.size + 1 ≠ blockSize) :
      Step s (.push k p)
        ⟨s.lists, s.holders.setIfInBounds k ⟨h.list, h.tail.push p, h.size + 1⟩⟩
  | write {s : PathStore α} {k : Nat} {h : PathHolder α} {p : Point α} {l : BlockList α}
      (found : s.holders[k]? = some h) (filled : h.tail.size + 1 = blockSize)
      (list : s.lists[h.list]? = some l) (single : l.count = 1) :
      Step s (.push k p)
        ⟨s.lists.setIfInBounds h.list ⟨l.blocks.push (h.tail.push p), 1⟩,
          s.holders.setIfInBounds k ⟨h.list, #[], h.size + 1⟩⟩
  | part {s : PathStore α} {k : Nat} {h : PathHolder α} {p : Point α} {l : BlockList α}
      (found : s.holders[k]? = some h) (filled : h.tail.size + 1 = blockSize)
      (list : s.lists[h.list]? = some l) (shared : l.count ≠ 1) :
      Step s (.push k p) (s.renew k h (l.blocks.push (h.tail.push p)) (h.size + 1))
  | forget {s : PathStore α} {k : Nat} {h : PathHolder α} (found : s.holders[k]? = some h) :
      Step s (.clear k) (s.renew k h #[] 0)
  | absent {s : PathStore α} {operation : PathOperation α} {k : Nat}
      (asked : operation.holder? = some k) (absent : s.holders[k]? = none) : Step s operation s

/-! ## Counting holders -/

/-- The number of holders that refer to a list. -/
def referring (holders : Array (PathHolder α)) (list : Nat) : Nat :=
  holders.countP fun h => h.list == list

section Referring

variable {h : PathHolder α} {k : Nat}

theorem lt_of_found {holders : Array (PathHolder α)} (found : holders[k]? = some h) :
    k < holders.size :=
  (Array.getElem?_eq_some_iff.1 found).1

/-- A holder that goes over from one list to another is counted there and no longer here. -/
theorem referring_set {holders : Array (PathHolder α)} (found : holders[k]? = some h)
    (g : PathHolder α) (i : Nat) :
    referring (holders.setIfInBounds k g) i =
      referring holders i - (if h.list = i then 1 else 0) + (if g.list = i then 1 else 0) := by
  obtain ⟨inside, rfl⟩ := Array.getElem?_eq_some_iff.1 found
  unfold referring
  rw [Array.setIfInBounds, dif_pos inside, Array.countP_set inside]
  simp only [beq_iff_eq]

theorem referring_push (holders : Array (PathHolder α)) (g : PathHolder α) (i : Nat) :
    referring (holders.push g) i = referring holders i + (if g.list = i then 1 else 0) := by
  unfold referring
  rw [Array.countP_push]
  simp only [beq_iff_eq]

theorem referring_pos {holders : Array (PathHolder α)} (found : holders[k]? = some h) :
    0 < referring holders h.list :=
  Array.countP_pos_iff.2 ⟨h, Array.mem_of_getElem? found, beq_self_eq_true _⟩

/-- A holder that stays with its list is counted as before. -/
theorem referring_stay {holders : Array (PathHolder α)} (found : holders[k]? = some h)
    {g : PathHolder α} (same : g.list = h.list) (i : Nat) :
    referring (holders.setIfInBounds k g) i = referring holders i := by
  have positive := referring_pos found
  rw [referring_set found, same]
  split
  · next own =>
    subst own
    omega
  · rfl

end Referring

/-- Every list counts the holders that refer to it, and each holder refers to a list. -/
structure Counted (s : PathStore α) : Prop where
  count : ∀ (i : Nat) (l : BlockList α), s.lists[i]? = some l → l.count = referring s.holders i
  listed : ∀ (k : Nat) (h : PathHolder α), s.holders[k]? = some h → h.list < s.lists.size

namespace Counted

variable {s t : PathStore α} {operation : PathOperation α} {h : PathHolder α} {k : Nat}

theorem empty : (PathStore.empty : PathStore α).Counted := by
  constructor
  · intro i l found
    simp [PathStore.empty] at found
  · intro k h found
    simp [PathStore.empty] at found

theorem exists_list (counted : s.Counted) (found : s.holders[k]? = some h) :
    ∃ l, s.lists[h.list]? = some l :=
  ⟨_, Array.getElem?_eq_getElem (counted.listed k h found)⟩

/-- What an operation does is one of the steps. -/
theorem step_after (counted : s.Counted) (operation : PathOperation α) :
    s.Step operation (s.after operation) := by
  cases operation with
  | create => exact .create
  | push k p =>
    change s.Step (.push k p) (s.push k p)
    unfold push
    cases found : s.holders[k]? with
    | none => exact .absent rfl found
    | some h =>
      dsimp only
      split
      · next filled =>
        rw [Array.size_push] at filled
        obtain ⟨l, list⟩ := counted.exists_list found
        unfold close
        rw [list]
        dsimp only
        split
        · next single => exact .write found filled list single
        · next shared => exact .part found filled list shared
      · next room =>
        rw [Array.size_push] at room
        exact .extend found room
  | copy k =>
    change s.Step (.copy k) (s.copy k)
    unfold copy
    cases found : s.holders[k]? with
    | none => exact .absent rfl found
    | some h => exact .copy found
  | clear k =>
    change s.Step (.clear k) (s.clear k)
    unfold clear
    cases found : s.holders[k]? with
    | none => exact .absent rfl found
    | some h => exact .forget found

/-! ## Counts -/

/-- No holder refers to the place behind the last list. -/
theorem referring_size (counted : s.Counted) : referring s.holders s.lists.size = 0 := by
  refine Array.countP_eq_zero.2 fun h mem => ?_
  obtain ⟨k, found⟩ := Array.getElem?_of_mem mem
  have inside := counted.listed k h found
  rw [beq_iff_eq]
  omega

/-- A list whose count is one has no two holders. -/
theorem unique {g : PathHolder α} {j : Nat} {l : BlockList α} (counted : s.Counted)
    (first : s.holders[k]? = some h) (second : s.holders[j]? = some g) (same : g.list = h.list)
    (list : s.lists[h.list]? = some l) (single : l.count = 1) : j = k := by
  by_contra other
  -- Without the first holder none would be left.
  have left := referring_set first ⟨h.list + 1, #[], 0⟩ h.list
  rw [← counted.count _ _ list, single] at left
  have still : (s.holders.setIfInBounds k ⟨h.list + 1, #[], 0⟩)[j]? = some g := by
    rw [Array.getElem?_setIfInBounds_ne (Ne.symm other), second]
  have positive := referring_pos still
  rw [same] at positive
  simp at left
  omega

/-! ## Steps keep the counts right -/

theorem listed_set {holders : Array (PathHolder α)} {g : PathHolder α} {size : Nat}
    (listed : ∀ (j : Nat) (f : PathHolder α), holders[j]? = some f → f.list < size)
    (inside : g.list < size) (j : Nat) (f : PathHolder α)
    (found : (holders.setIfInBounds k g)[j]? = some f) : f.list < size := by
  rw [Array.getElem?_setIfInBounds] at found
  split at found
  · split at found
    · cases found
      exact inside
    · cases found
  · exact listed j f found

theorem listed_push {holders : Array (PathHolder α)} {g : PathHolder α} {size : Nat}
    (listed : ∀ (j : Nat) (f : PathHolder α), holders[j]? = some f → f.list < size)
    (inside : g.list < size) (j : Nat) (f : PathHolder α)
    (found : (holders.push g)[j]? = some f) : f.list < size := by
  rw [Array.getElem?_push] at found
  split at found
  · cases found
    exact inside
  · exact listed j f found

theorem listed_succ (counted : s.Counted) (j : Nat) (f : PathHolder α)
    (found : s.holders[j]? = some f) : f.list < s.lists.size + 1 :=
  Nat.lt_succ_of_lt (counted.listed j f found)

theorem renew (counted : s.Counted) (found : s.holders[k]? = some h)
    (blocks : Array (Array (Point α))) (size : Nat) : (s.renew k h blocks size).Counted := by
  have inside := counted.listed k h found
  constructor
  · intro i l list
    change ((s.lists.modify h.list .release).push ⟨blocks, 1⟩)[i]? = some l at list
    change l.count = referring (s.holders.setIfInBounds k ⟨s.lists.size, #[], size⟩) i
    rw [Array.getElem?_push, Array.size_modify] at list
    rw [referring_set found]
    split at list
    · next last =>
      cases list
      subst last
      rw [counted.referring_size, if_neg (Nat.ne_of_lt inside), if_pos rfl]
    · next old =>
      rw [if_neg (Ne.symm old)]
      rw [Array.getElem?_modify] at list
      split at list
      · next own =>
        obtain ⟨m, before, rfl⟩ := Option.map_eq_some_iff.1 list
        rw [if_pos own, BlockList.release, counted.count i m before, Nat.add_zero]
      · next other =>
        rw [if_neg other, counted.count i l list, Nat.sub_zero, Nat.add_zero]
  · change ∀ (j : Nat) (g : PathHolder α),
      (s.holders.setIfInBounds k ⟨s.lists.size, #[], size⟩)[j]? = some g →
        g.list < ((s.lists.modify h.list .release).push ⟨blocks, 1⟩).size
    rw [Array.size_push, Array.size_modify]
    exact listed_set counted.listed_succ (Nat.lt_succ_self _)

theorem step (step : s.Step operation t) (counted : s.Counted) : t.Counted := by
  cases step with
  | create =>
    constructor
    · intro i l list
      dsimp only at list ⊢
      rw [Array.getElem?_push] at list
      rw [referring_push]
      split at list
      · next last =>
        cases list
        rw [last, counted.referring_size, if_pos rfl]
        rfl
      · next old => rw [if_neg (Ne.symm old), counted.count i l list, Nat.add_zero]
    · dsimp only
      rw [Array.size_push]
      exact listed_push counted.listed_succ (Nat.lt_succ_self _)
  | @copy k h found =>
    constructor
    · intro i l list
      dsimp only at list ⊢
      rw [Array.getElem?_modify] at list
      rw [referring_push]
      split at list
      · next own =>
        obtain ⟨m, before, rfl⟩ := Option.map_eq_some_iff.1 list
        rw [if_pos own, BlockList.retain, counted.count i m before]
      · next other => rw [if_neg other, counted.count i l list, Nat.add_zero]
    · dsimp only
      rw [Array.size_modify]
      exact listed_push counted.listed (counted.listed k h found)
  | @extend k h p found room =>
    constructor
    · intro i l list
      dsimp only
      rw [referring_stay found (by rfl), counted.count i l list]
    · exact listed_set counted.listed (counted.listed k h found)
  | @write k h p l found filled list single =>
    constructor
    · intro i m place
      dsimp only at place ⊢
      rw [referring_stay found (by rfl)]
      rw [Array.getElem?_setIfInBounds] at place
      split at place
      · next own =>
        split at place
        · cases place
          rw [← own, ← counted.count _ _ list, single]
        · cases place
      · exact counted.count i m place
    · dsimp only
      rw [Array.size_setIfInBounds]
      exact listed_set counted.listed (counted.listed k h found)
  | part found filled list shared => exact counted.renew found _ _
  | forget found => exact counted.renew found _ _
  | absent => exact counted

theorem after (counted : s.Counted) (operation : PathOperation α) : (s.after operation).Counted :=
  counted.step (counted.step_after operation)

end Counted

/-- What is kept by every operation is kept by a run of them. -/
theorem run_keeps {holds : PathStore α → Prop}
    (step : ∀ (s : PathStore α) (operation : PathOperation α), holds s → holds (s.after operation))
    {s : PathStore α} (start : holds s) (operations : List (PathOperation α)) :
    holds (s.run operations) := by
  induction operations generalizing s with
  | nil => exact start
  | cons operation rest ih => exact ih (step s operation start)

theorem Counted.run {s : PathStore α} (counted : s.Counted)
    (operations : List (PathOperation α)) : (s.run operations).Counted :=
  run_keeps (fun _ operation counted => counted.after operation) counted operations

end PathStore

end PlanarArm
