import PlanarArm.Proofs.Toolpath.Independent
import PlanarArm.Scalar.Binary64
import PlanarArm.Simulator.Snapshot

/-!
# Which paths share their blocks

Two holders share a list of blocks only because one is a copy of the other, until one of the two
closes a block or forgets its points. None of this shows in their paths.

* `PathStore.shares_after`: which holders share a list after an operation.
* `PathStore.shares_run`: which of those that are there share one after a run of them.
* `shared_paths_independent`: what holders see, and what they share, in every run.
-/

namespace PlanarArm

variable {α : Type}

/-- Whether the operation closes a block of the holder, or makes it forget its points. -/
def PathOperation.renews (operation : PathOperation α) (s : PathStore α) (k : Nat) : Bool :=
  match operation with
  | .create | .copy _ => false
  | .push holder _ =>
    holder == k && (s.path? k).any fun path => path.tail.size + 1 == blockSize
  | .clear holder => holder == k

namespace PathStore

variable {s t : PathStore α} {operation : PathOperation α} {h : PathHolder α} {j k a b : Nat}

/-! ## Who shares a list -/

/-- The place of the list of a holder. -/
def list? (s : PathStore α) (k : Nat) : Option Nat :=
  (s.holders[k]?).map PathHolder.list

theorem list?_of_found (found : s.holders[k]? = some h) : s.list? k = some h.list := by
  rw [list?, found, Option.map_some]

theorem list?_of_absent (absent : s.holders[k]? = none) : s.list? k = none := by
  rw [list?, absent, Option.map_none]

theorem list?_size : s.list? s.holders.size = none :=
  list?_of_absent (Array.getElem?_eq_none (Nat.le_refl _))

theorem list?_push (lists : Array (BlockList α)) (g : PathHolder α) :
    list? ⟨lists, s.holders.push g⟩ j = if j = s.holders.size then some g.list else s.list? j := by
  unfold list?
  dsimp only
  rw [Array.getElem?_push]
  split <;> rfl

theorem list?_set (found : s.holders[k]? = some h) (lists : Array (BlockList α))
    (g : PathHolder α) :
    list? ⟨lists, s.holders.setIfInBounds k g⟩ j = if j = k then some g.list else s.list? j := by
  unfold list?
  dsimp only
  by_cases own : j = k
  · subst own
    rw [getElem?_replace found, if_pos rfl, Option.map_some]
  · rw [Array.getElem?_setIfInBounds_ne (Ne.symm own), if_neg own]

/-- A holder that stays with its list. -/
theorem list?_stay (found : s.holders[k]? = some h) (lists : Array (BlockList α))
    {g : PathHolder α} (same : g.list = h.list) :
    list? ⟨lists, s.holders.setIfInBounds k g⟩ j = s.list? j := by
  rw [list?_set found, same]
  split
  · next own => rw [own, list?_of_found found]
  · rfl

theorem list?_renew (found : s.holders[k]? = some h) (blocks : Array (Array (Point α)))
    (size : Nat) : (s.renew k h blocks size).list? j =
      if j = k then some s.lists.size else s.list? j :=
  list?_set found _ _

theorem Counted.list_lt (counted : s.Counted) {i : Nat} (refers : s.list? k = some i) :
    i < s.lists.size := by
  obtain ⟨h, found, rfl⟩ := Option.map_eq_some_iff.1 refers
  exact counted.listed k h found

theorem shares_iff : s.shares a b = true ↔ ∃ i, s.list? a = some i ∧ s.list? b = some i := by
  unfold shares list?
  cases s.holders[a]? with
  | none => simp
  | some g =>
    cases s.holders[b]? with
    | none => simp
    | some h =>
      constructor
      · intro same
        exact ⟨g.list, rfl, congrArg some (beq_iff_eq.1 same).symm⟩
      · rintro ⟨i, first, second⟩
        cases first
        exact beq_iff_eq.2 (Option.some.inj second).symm

theorem shares_congr (first : t.list? a = s.list? a) (second : t.list? b = s.list? b) :
    t.shares a b = true ↔ s.shares a b = true := by
  rw [shares_iff, shares_iff, first, second]

/-- Holders of one list have the same full blocks. -/
theorem full_of_shares (shared : s.shares a b = true) :
    ∃ path other, s.path? a = some path ∧ s.path? b = some other ∧ path.full = other.full := by
  obtain ⟨i, first, second⟩ := shares_iff.1 shared
  obtain ⟨g, found, rfl⟩ := Option.map_eq_some_iff.1 first
  obtain ⟨h, found', same⟩ := Option.map_eq_some_iff.1 second
  refine ⟨_, _, path?_of_found found, path?_of_found found', ?_⟩
  dsimp only
  rw [same]

/-! ## Sharing from one operation to the next -/

theorem renews_room {p : Point α} (found : s.holders[k]? = some h)
    (room : h.tail.size + 1 ≠ blockSize) (a : Nat) :
    (PathOperation.push k p).renews s a = false := by
  unfold PathOperation.renews
  dsimp only
  by_cases own : k = a
  · subst own
    rw [path?_of_found found, Option.any_some]
    simp [room]
  · simp [own]

theorem renews_filled {p : Point α} (found : s.holders[k]? = some h)
    (filled : h.tail.size + 1 = blockSize) (a : Nat) :
    (PathOperation.push k p).renews s a = (k == a) := by
  unfold PathOperation.renews
  dsimp only
  by_cases own : k = a
  · subst own
    rw [path?_of_found found, Option.any_some]
    simp [filled]
  · simp [own]

/-- A holder that goes over to a new list shares it with nobody. -/
theorem shares_moved (counted : s.Counted) (apart : a ≠ b)
    (moved : ∀ j, t.list? j = if j = k then some s.lists.size else s.list? j) :
    t.shares a b = true ↔ s.shares a b = true ∧ k ≠ a ∧ k ≠ b := by
  have new (j : Nat) (refers : s.list? j = some s.lists.size) : False :=
    Nat.lt_irrefl _ (counted.list_lt refers)
  rw [shares_iff, shares_iff, moved, moved]
  constructor
  · rintro ⟨i, first, second⟩
    split at first
    · next own =>
      rw [if_neg fun also => apart (own.trans also.symm)] at second
      cases first
      exact absurd second (new b)
    · next other =>
      split at second
      · cases second
        exact absurd first (new a)
      · next also => exact ⟨⟨i, first, second⟩, Ne.symm other, Ne.symm also⟩
  · rintro ⟨⟨i, first, second⟩, other, also⟩
    rw [if_neg (Ne.symm other), if_neg (Ne.symm also)]
    exact ⟨i, first, second⟩

theorem shares_renew (counted : s.Counted) (found : s.holders[k]? = some h) (apart : a ≠ b)
    (blocks : Array (Array (Point α))) (size : Nat) :
    (s.renew k h blocks size).shares a b = true ↔ s.shares a b = true ∧ k ≠ a ∧ k ≠ b :=
  shares_moved counted apart fun _ => list?_renew found blocks size

theorem ne_size_of_shares (shared : s.shares a b = true) :
    s.holders.size ≠ a ∧ s.holders.size ≠ b := by
  obtain ⟨i, first, second⟩ := shares_iff.1 shared
  constructor <;> rintro rfl
  · rw [list?_size] at first
    cases first
  · rw [list?_size] at second
    cases second

theorem shares_create (counted : s.Counted) (apart : a ≠ b) :
    s.create.shares a b = true ↔ s.shares a b = true :=
  (shares_moved counted apart fun _ => list?_push _ _).trans
    (and_iff_left_of_imp ne_size_of_shares)

/-- A copy shares its list with whoever shares that of the original. -/
theorem shares_copy (apart : a ≠ b) :
    (s.copy k).shares a b = true ↔
      s.shares a b = true ∨ b = s.holders.size ∧ s.shares a k = true ∨
        a = s.holders.size ∧ s.shares k b = true := by
  unfold copy
  cases found : s.holders[k]? with
  | none =>
    dsimp only
    simp only [shares_iff, list?_of_absent found]
    simp
  | some h =>
    dsimp only
    simp only [shares_iff, list?_push, ← list?_of_found found]
    by_cases first : a = s.holders.size
    · subst first
      simp [list?_size, Ne.symm apart]
    · by_cases second : b = s.holders.size
      · subst second
        simp [list?_size, first]
      · simp [first, second]

/-- Whoever is the only holder of a list shares it with nobody. -/
theorem ne_of_single (counted : s.Counted) {l : BlockList α} (found : s.holders[k]? = some h)
    (list : s.lists[h.list]? = some l) (single : l.count = 1) (apart : a ≠ b)
    (shared : s.shares a b = true) : k ≠ a ∧ k ≠ b := by
  obtain ⟨i, first, second⟩ := shares_iff.1 shared
  constructor <;> rintro rfl
  · rw [list?_of_found found] at first
    cases first
    obtain ⟨g, other, same⟩ := Option.map_eq_some_iff.1 second
    exact apart (counted.unique found other same list single).symm
  · rw [list?_of_found found] at second
    cases second
    obtain ⟨g, other, same⟩ := Option.map_eq_some_iff.1 first
    exact apart (counted.unique found other same list single)

theorem ne_of_absent (absent : s.holders[k]? = none) (shared : s.shares a b = true) :
    k ≠ a ∧ k ≠ b := by
  obtain ⟨i, first, second⟩ := shares_iff.1 shared
  constructor <;> rintro rfl
  · rw [list?_of_absent absent] at first
    cases first
  · rw [list?_of_absent absent] at second
    cases second

/-- An operation renews no other holder than the one it asks for. -/
theorem renews_of_ne (asked : operation.holder? = some k) (other : k ≠ a) :
    operation.renews s a = false := by
  cases operation with
  | create => cases asked
  | copy holder => rfl
  | push holder p =>
    cases asked
    simp [PathOperation.renews, other]
  | clear holder =>
    cases asked
    simp [PathOperation.renews, other]

/-- Without a copy two holders go on sharing a list until one of them closes a block or forgets its
points, and none begin to. -/
theorem shares_step (step : s.Step operation t) (counted : s.Counted) (apart : a ≠ b)
    (uncopied : ∀ k, operation ≠ .copy k) :
    t.shares a b = true ↔
      s.shares a b = true ∧ operation.renews s a = false ∧ operation.renews s b = false := by
  cases step with
  | create =>
    have same : s.create.shares a b = true ↔ s.shares a b = true := shares_create counted apart
    exact same.trans (and_iff_left_of_imp fun _ => ⟨rfl, rfl⟩).symm
  | copy => exact absurd rfl (uncopied _)
  | extend found room =>
    refine (shares_congr (list?_stay found _ (by rfl)) (list?_stay found _ (by rfl))).trans ?_
    exact (and_iff_left_of_imp fun _ => ⟨renews_room found room a, renews_room found room b⟩).symm
  | write found filled list single =>
    refine (shares_congr (list?_stay found _ (by rfl)) (list?_stay found _ (by rfl))).trans ?_
    refine (and_iff_left_of_imp fun shared => ?_).symm
    obtain ⟨first, second⟩ := ne_of_single counted found list single apart shared
    exact ⟨renews_of_ne rfl first, renews_of_ne rfl second⟩
  | part found filled list shared =>
    rw [renews_filled found filled, renews_filled found filled, shares_renew counted found apart]
    simp
  | forget found =>
    rw [shares_renew counted found apart]
    simp [PathOperation.renews]
  | absent asked absent =>
    refine (and_iff_left_of_imp fun shared => ?_).symm
    obtain ⟨first, second⟩ := ne_of_absent absent shared
    exact ⟨renews_of_ne asked first, renews_of_ne asked second⟩

/-- Two holders share a list after an operation if they did so before and neither has closed a block
or forgotten its points, or if one of them is a copy that has just come. -/
theorem shares_after (counted : s.Counted) (operation : PathOperation α) (apart : a ≠ b) :
    (s.after operation).shares a b = true ↔
      (s.shares a b = true ∧ operation.renews s a = false ∧ operation.renews s b = false) ∨
        ∃ k, operation = .copy k ∧ (b = s.holders.size ∧ s.shares a k = true ∨
          a = s.holders.size ∧ s.shares k b = true) := by
  by_cases copied : ∃ k, operation = .copy k
  · obtain ⟨k, rfl⟩ := copied
    refine (shares_copy apart).trans ?_
    simp [PathOperation.renews]
  · have uncopied (k : Nat) (copies : operation = .copy k) : False := copied ⟨k, copies⟩
    refine (shares_step (counted.step_after operation) counted apart uncopied).trans ?_
    refine (or_iff_left ?_).symm
    rintro ⟨k, copies, -⟩
    exact uncopied k copies

/-! ## Sharing over a run -/

/-- None of the operations, performed one after the other, closes a block of one of the two holders
or makes it forget its points. -/
def Unrenewed (s : PathStore α) (a b : Nat) : List (PathOperation α) → Prop
  | [] => True
  | operation :: later =>
    operation.renews s a = false ∧ operation.renews s b = false ∧
      (s.after operation).Unrenewed a b later

/-- Holders stay. -/
theorem size_le_after (counted : s.Counted) (operation : PathOperation α) :
    s.holders.size ≤ (s.after operation).holders.size := by
  have step := counted.step_after operation
  generalize s.after operation = t at step ⊢
  cases step with
  | create | copy =>
    dsimp only
    rw [Array.size_push]
    exact Nat.le_succ _
  | extend | write | part | forget =>
    exact Nat.le_of_eq Array.size_setIfInBounds.symm
  | absent => exact Nat.le_refl _

/-- Two holders that are there share a list later if they share it now and neither closes a block or
forgets its points until then. -/
theorem shares_run (counted : s.Counted) (apart : a ≠ b) (first : a < s.holders.size)
    (second : b < s.holders.size) (later : List (PathOperation α)) :
    (s.run later).shares a b = true ↔ s.shares a b = true ∧ s.Unrenewed a b later := by
  induction later generalizing s with
  | nil => exact (and_iff_left trivial).symm
  | cons operation later ih =>
    have stay := size_le_after counted operation
    refine (ih (counted.after operation) (Nat.lt_of_lt_of_le first stay)
      (Nat.lt_of_lt_of_le second stay)).trans ?_
    rw [shares_after counted operation apart, or_iff_left]
    · exact ⟨fun ⟨⟨now, ra, rb⟩, rest⟩ => ⟨now, ra, rb, rest⟩,
        fun ⟨now, ra, rb, rest⟩ => ⟨⟨now, ra, rb⟩, rest⟩⟩
    · rintro ⟨k, -, ⟨rfl, -⟩ | ⟨rfl, -⟩⟩
      · exact Nat.lt_irrefl _ second
      · exact Nat.lt_irrefl _ first

end PathStore

/-- Whatever is done with paths that share their blocks, each holder sees what it would see if it kept
a list of its own, and a list of blocks is shared from a copy until the next change of it.

* The lists of blocks count their holders.
* The path of a holder stands for its points, is written as the list of them, and is equal to another
  path if and only if the points are.
* An operation leaves the paths of all holders as they are but the one that it changes.
* Two holders that share a list have the same full blocks.
* Two holders share a list after an operation if they did so before and neither has closed a block or
  forgotten its points, or if one of them is a copy that has just come.
* Two holders that are there share a list later if they share it now and neither closes a block or
  forgets its points until then. -/
theorem shared_paths_independent (operations : List (PathOperation Float)) :
    let s := PathStore.empty.run operations
    let lists := operations.foldl PathOperation.onLists []
    s.holders.size = lists.length ∧
    (∀ i l, s.lists[i]? = some l → l.count = PathStore.referring s.holders i) ∧
    (∀ k points, lists[k]? = some points → ∃ path, s.path? k = some path ∧
      path.Represents points ∧ path.toRecord = .array (points.map Point.toRecord) ∧
      ∀ j others, lists[j]? = some others → ∃ other, s.path? j = some other ∧
        path.same other = points.isEqv others Point.same) ∧
    (∀ operation k, k < s.holders.size → operation.changes? ≠ some k →
      (s.after operation).path? k = s.path? k) ∧
    (∀ a b, s.shares a b = true → ∃ path other, s.path? a = some path ∧ s.path? b = some other ∧
      path.full = other.full) ∧
    (∀ operation a b, a ≠ b → ((s.after operation).shares a b = true ↔
      (s.shares a b = true ∧ operation.renews s a = false ∧ operation.renews s b = false) ∨
        ∃ k, operation = .copy k ∧ (b = s.holders.size ∧ s.shares a k = true ∨
          a = s.holders.size ∧ s.shares k b = true))) ∧
    ∀ later a b, a ≠ b → a < s.holders.size → b < s.holders.size →
      ((s.run later).shares a b = true ↔ s.shares a b = true ∧ s.Unrenewed a b later) := by
  intro s lists
  have counted : s.Counted := PathStore.Counted.empty.run operations
  have agrees : s.Agrees lists := PathStore.Agrees.empty.run .empty operations
  have seen {k : Nat} {points : List (Point Float)} (list : lists[k]? = some points) :
      s.path? k = some (.ofList points) := by
    rw [agrees.path k, list, Option.map_some]
  refine ⟨agrees.size, counted.count, fun k points list => ?_, fun operation k known untouched => ?_,
    fun a b => PathStore.full_of_shares, fun operation a b => PathStore.shares_after counted operation,
    fun later a b apart first second => PathStore.shares_run counted apart first second later⟩
  · have shown := Toolpath.represents_ofList points
    refine ⟨.ofList points, seen list, shown, ?_, fun j others list' => ?_⟩
    · rw [Toolpath.toRecord, shown.toList]
    · exact ⟨.ofList others, seen list', Toolpath.same_ofList points others⟩
  · have after : (s.after operation).Agrees (operation.onLists lists) :=
      agrees.after counted operation
    rw [after.path k, agrees.path k,
      PathStore.getElem?_onLists (agrees.size ▸ known) untouched]

end PlanarArm
