import PlanarArm.Proofs.Toolpath.Blocks
import PlanarArm.Proofs.Toolpath.Holders

/-!
# Paths that share their blocks are independent

Holders that share full blocks see what holders of plain lists would see that have nothing in
common: `PathOperation.onLists` is an operation on such lists, and `PathStore.Agrees` says that each
holder sees the path that comes of its list.

* `PathStore.Agrees.step`: each step does to the paths what it does to independent lists.
* `PathStore.getElem?_onLists`: an operation on one of the lists leaves the others as they are.
-/

namespace PlanarArm

variable {α : Type}

namespace PathOperation

/-- The operation on lists of points that have nothing in common. -/
def onLists (lists : List (List (Point α))) : PathOperation α → List (List (Point α))
  | .create => lists ++ [[]]
  | .push holder p => lists.modify holder fun points => points ++ [p]
  | .copy holder => lists ++ lists[holder]?.toList
  | .clear holder => lists.modify holder fun _ => []

/-- The holder whose points the operation changes. -/
def changes? : PathOperation α → Option Nat
  | .create | .copy _ => none
  | .push holder _ | .clear holder => some holder

end PathOperation

namespace PathStore

variable {s t : PathStore α} {operation : PathOperation α} {h : PathHolder α} {k j : Nat}

/-! ## What a holder sees -/

theorem blocks_of_list {i : Nat} {l : BlockList α} (list : s.lists[i]? = some l) :
    s.blocks i = l.blocks := by
  rw [blocks, list]

theorem path?_of_found (found : s.holders[k]? = some h) :
    s.path? k = some ⟨s.blocks h.list, h.tail, h.size⟩ := by
  rw [path?, found, Option.map_some]

theorem path?_of_list {l : BlockList α} (found : s.holders[k]? = some h)
    (list : s.lists[h.list]? = some l) : s.path? k = some ⟨l.blocks, h.tail, h.size⟩ := by
  rw [path?_of_found found, blocks_of_list list]

theorem path?_of_absent (absent : s.holders[k]? = none) : s.path? k = none := by
  rw [path?, absent, Option.map_none]

/-- What a holder sees depends on what it has of its own and on the blocks of its list. -/
theorem path?_congr (holder : t.holders[j]? = s.holders[j]?)
    (blocks : ∀ g, s.holders[j]? = some g → t.blocks g.list = s.blocks g.list) :
    t.path? j = s.path? j := by
  unfold path?
  rw [holder]
  refine Option.map_congr fun g found => ?_
  rw [blocks g found]

theorem blocks_push {l : BlockList α} {holders : Array (PathHolder α)} {i : Nat}
    (inside : i < s.lists.size) : blocks ⟨s.lists.push l, holders⟩ i = s.blocks i := by
  unfold blocks
  dsimp only
  rw [Array.getElem?_push, if_neg (Nat.ne_of_lt inside)]

theorem blocks_modify (f : BlockList α → BlockList α) (kept : ∀ l, (f l).blocks = l.blocks)
    (holders : Array (PathHolder α)) (place i : Nat) :
    blocks ⟨s.lists.modify place f, holders⟩ i = s.blocks i := by
  unfold blocks
  dsimp only
  rw [Array.getElem?_modify]
  by_cases own : place = i
  · rw [if_pos own]
    cases s.lists[i]? with
    | none => rfl
    | some l => exact kept l
  · rw [if_neg own]

/-- A further holder of a list does not change its blocks, and neither does one that leaves it. -/
theorem blocks_retain (holders : Array (PathHolder α)) (place i : Nat) :
    blocks ⟨s.lists.modify place .retain, holders⟩ i = s.blocks i :=
  blocks_modify .retain (fun _ => rfl) holders place i

theorem blocks_release (holders : Array (PathHolder α)) (place i : Nat) :
    blocks ⟨s.lists.modify place .release, holders⟩ i = s.blocks i :=
  blocks_modify .release (fun _ => rfl) holders place i

theorem getElem?_replace (found : s.holders[k]? = some h) (g : PathHolder α) :
    (s.holders.setIfInBounds k g)[k]? = some g := by
  rw [Array.getElem?_setIfInBounds, if_pos rfl, if_pos (lt_of_found found)]

theorem path?_renew_self (found : s.holders[k]? = some h) (blocks : Array (Array (Point α)))
    (size : Nat) : (s.renew k h blocks size).path? k = some ⟨blocks, #[], size⟩ := by
  have last : (s.renew k h blocks size).lists[s.lists.size]? = some ⟨blocks, 1⟩ := by
    unfold renew
    dsimp only
    rw [Array.getElem?_push, Array.size_modify, if_pos rfl]
  have own : (s.renew k h blocks size).holders[k]? = some ⟨s.lists.size, #[], size⟩ :=
    getElem?_replace found _
  exact path?_of_list own last

/-- The others do not notice that a holder leaves its list. -/
theorem path?_renew_of_ne (counted : s.Counted) (other : j ≠ k)
    (blocks : Array (Array (Point α))) (size : Nat) :
    (s.renew k h blocks size).path? j = s.path? j := by
  refine path?_congr (Array.getElem?_setIfInBounds_ne other.symm) fun g found => ?_
  have inside : g.list < (s.lists.modify h.list BlockList.release).size := by
    rw [Array.size_modify]
    exact counted.listed j g found
  exact (blocks_push (s := ⟨s.lists.modify h.list .release, s.holders⟩) inside).trans
    (blocks_release _ _ _)

/-! ## Independent lists -/

/-- Each holder sees the path that comes of its own list of points. -/
structure Agrees (s : PathStore α) (lists : List (List (Point α))) : Prop where
  size : s.holders.size = lists.length
  path : ∀ k, s.path? k = lists[k]?.map Toolpath.ofList

namespace Agrees

variable {lists : List (List (Point α))}

theorem empty : (PathStore.empty : PathStore α).Agrees [] :=
  ⟨rfl, fun _ => rfl⟩

/-- One holder has other points than before. -/
theorem modify (agrees : s.Agrees lists) {f : List (Point α) → List (Point α)}
    (size : t.holders.size = s.holders.size)
    (own : ∀ points, s.path? k = some (.ofList points) → t.path? k = some (.ofList (f points)))
    (others : ∀ j, j ≠ k → t.path? j = s.path? j) (known : k < s.holders.size) :
    t.Agrees (lists.modify k f) := by
  refine ⟨?_, fun j => ?_⟩
  · rw [size, agrees.size, List.length_modify]
  · rw [List.getElem?_modify]
    by_cases same : j = k
    · subst same
      rw [agrees.size] at known
      have before := agrees.path j
      rw [List.getElem?_eq_getElem known] at before ⊢
      rw [own _ before]
      simp
    · rw [others j same, agrees.path j]
      simp [Ne.symm same]

/-- A further holder comes. -/
theorem append (agrees : s.Agrees lists) {points : List (Point α)}
    (size : t.holders.size = s.holders.size + 1)
    (new : t.path? s.holders.size = some (.ofList points))
    (others : ∀ j, j < s.holders.size → t.path? j = s.path? j) :
    t.Agrees (lists ++ [points]) := by
  refine ⟨?_, fun j => ?_⟩
  · rw [size, agrees.size, List.length_append, List.length_singleton]
  · rcases Nat.lt_trichotomy j s.holders.size with old | rfl | beyond
    · rw [others j old, agrees.path j, List.getElem?_append_left (agrees.size ▸ old)]
    · rw [new, agrees.size, List.getElem?_concat_length, Option.map_some]
    · have outside : t.holders[j]? = none := Array.getElem?_eq_none (by omega)
      have length : (lists ++ [points]).length ≤ j := by
        rw [List.length_append, List.length_singleton, ← agrees.size]
        exact beyond
      rw [path?_of_absent outside, List.getElem?_eq_none length, Option.map_none]

/-- Each step does to the paths what it does to independent lists. -/
theorem step (step : s.Step operation t) (counted : s.Counted) (agrees : s.Agrees lists) :
    t.Agrees (operation.onLists lists) := by
  cases step with
  | create =>
    refine agrees.append (Array.size_push _) ?_ fun j old => ?_
    · exact path?_of_list (s := ⟨s.lists.push .fresh, s.holders.push ⟨s.lists.size, #[], 0⟩⟩)
        Array.getElem?_push_size Array.getElem?_push_size
    · refine path?_congr ?_ fun g found => blocks_push (counted.listed j g found)
      dsimp only
      rw [Array.getElem?_push, if_neg (Nat.ne_of_lt old)]
  | @copy k h found =>
    have known : k < lists.length := agrees.size ▸ lt_of_found found
    have before := agrees.path k
    unfold PathOperation.onLists
    dsimp only
    rw [List.getElem?_eq_getElem known] at before ⊢
    refine agrees.append (Array.size_push _) ?_ fun j old => ?_
    · rw [← Option.map_some, ← before, path?_of_found found,
        path?_of_found (s := ⟨s.lists.modify h.list .retain, s.holders.push h⟩)
          Array.getElem?_push_size, blocks_retain]
    · refine path?_congr ?_ fun g _ => blocks_retain _ _ _
      dsimp only
      rw [Array.getElem?_push, if_neg (Nat.ne_of_lt old)]
  | @extend k h p found room =>
    refine agrees.modify (Array.size_setIfInBounds) (fun points before => ?_) (fun j other => ?_)
      (lt_of_found found)
    · rw [path?_of_found found] at before
      rw [Toolpath.ofList_append, ← Option.some.inj before, Toolpath.push_of_room room]
      exact path?_of_found
        (s := ⟨s.lists, s.holders.setIfInBounds k ⟨h.list, h.tail.push p, h.size + 1⟩⟩)
        (getElem?_replace found _)
    · exact path?_congr (Array.getElem?_setIfInBounds_ne other.symm) fun _ _ => rfl
  | @write k h p l found filled list single =>
    refine agrees.modify (Array.size_setIfInBounds) (fun points before => ?_) (fun j other => ?_)
      (lt_of_found found)
    · rw [path?_of_list found list] at before
      rw [Toolpath.ofList_append, ← Option.some.inj before, Toolpath.push_of_filled filled]
      have place : (s.lists.setIfInBounds h.list ⟨l.blocks.push (h.tail.push p), 1⟩)[h.list]? =
          some ⟨l.blocks.push (h.tail.push p), 1⟩ := by
        rw [Array.getElem?_setIfInBounds, if_pos rfl, if_pos (counted.listed k h found)]
      exact path?_of_list (s := ⟨_, s.holders.setIfInBounds k ⟨h.list, #[], h.size + 1⟩⟩)
        (getElem?_replace found _) place
    · refine path?_congr (Array.getElem?_setIfInBounds_ne other.symm) fun g holder => ?_
      -- Only a list of no other holder is written to.
      have apart : g.list ≠ h.list := fun same =>
        other (counted.unique found holder same list single)
      unfold blocks
      dsimp only
      rw [Array.getElem?_setIfInBounds_ne apart.symm]
  | @part k h p l found filled list shared =>
    refine agrees.modify (Array.size_setIfInBounds) (fun points before => ?_)
      (fun j other => path?_renew_of_ne counted other _ _) (lt_of_found found)
    rw [path?_of_list found list] at before
    rw [Toolpath.ofList_append, ← Option.some.inj before, Toolpath.push_of_filled filled]
    exact path?_renew_self found _ _
  | @forget k h found =>
    exact agrees.modify (Array.size_setIfInBounds) (fun points _ => path?_renew_self found _ _)
      (fun j other => path?_renew_of_ne counted other _ _) (lt_of_found found)
  | @absent operation k asked absent =>
    have outside : lists.length ≤ k := by
      rw [← agrees.size]
      exact Array.getElem?_eq_none_iff.1 absent
    have same : operation.onLists lists = lists := by
      cases operation with
      | create => cases asked
      | push holder p =>
        cases asked
        exact List.modify_eq_self outside
      | copy holder =>
        cases asked
        unfold PathOperation.onLists
        dsimp only
        rw [List.getElem?_eq_none outside]
        exact List.append_nil lists
      | clear holder =>
        cases asked
        exact List.modify_eq_self outside
    rw [same]
    exact agrees

theorem after (agrees : s.Agrees lists) (counted : s.Counted) (operation : PathOperation α) :
    (s.after operation).Agrees (operation.onLists lists) :=
  agrees.step (counted.step_after operation) counted

theorem run (agrees : s.Agrees lists) (counted : s.Counted)
    (operations : List (PathOperation α)) :
    (s.run operations).Agrees (operations.foldl PathOperation.onLists lists) := by
  induction operations generalizing s lists with
  | nil => exact agrees
  | cons operation rest ih =>
    exact ih (agrees.after counted operation) (counted.after operation)

end Agrees

/-- A list of points whose holder the operation does not change stays as it is. -/
theorem getElem?_onLists {lists : List (List (Point α))} (known : k < lists.length)
    (untouched : operation.changes? ≠ some k) :
    (operation.onLists lists)[k]? = lists[k]? := by
  cases operation with
  | create => exact List.getElem?_append_left known
  | copy holder => exact List.getElem?_append_left known
  | push holder p =>
    have other : holder ≠ k := fun same => untouched (congrArg some same)
    exact List.getElem?_modify_ne _ _ other
  | clear holder =>
    have other : holder ≠ k := fun same => untouched (congrArg some same)
    exact List.getElem?_modify_ne _ _ other

end PathStore

end PlanarArm
