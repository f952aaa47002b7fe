import Mathlib.Data.List.Infix
import Mathlib.Order.Bounds.Basic
import Mathlib.Tactic.Common
import PlanarArm.Session.Listening

/-!
# The latest items of a channel

A channel holds the latest of the items that have been sent on it, as many as fit
(`Broadcast.Holds`). A look at it shows one of three things to a subscriber, told by its place among
all that has been sent.

## Main results

* `Broadcast.Holds.look_cases`: a subscriber finds that it has lost items, or its next item, or that
  there is nothing more.
* `Broadcast.Holds.receive_eq_seek`: to receive is to look until nothing more has been lost.
-/

namespace PlanarArm

variable {ε : Type}

namespace Broadcast

theorem powerAbove_isLeast (n : Nat) :
    IsLeast {power : Nat | power.isPowerOfTwo ∧ n ≤ power} (powerAbove n) := by
  unfold powerAbove
  split
  · next small =>
    exact ⟨⟨Nat.isPowerOfTwo_one, small⟩, fun power least => Nat.pos_of_isPowerOfTwo least.1⟩
  · next large =>
    rw [Nat.one_shiftLeft]
    refine ⟨⟨⟨_, rfl⟩, ?_⟩, ?_⟩
    · have below : n - 1 < 2 ^ ((n - 1).log2 + 1) := Nat.lt_log2_self
      omega
    · rintro _ ⟨⟨exponent, rfl⟩, least⟩
      have below : (n - 1).log2 < exponent := (Nat.log2_lt (by omega)).2 (by omega)
      exact Nat.pow_le_pow_right (by decide) below

/-- The channel holds the latest of the items that have been sent on it, as many as fit. -/
structure Holds (b : Broadcast ε) (sent : List ε) : Prop where
  /-- One item fits at least, -/
  room : 0 < b.capacity
  /-- all items have been counted, -/
  count : b.published = sent.length
  /-- and the latest are held. -/
  held : b.held.toList = sent.drop (sent.length - b.capacity)

variable {b c : Broadcast ε} {sent : List ε} {item : ε} {subscriber other next : Nat}

theorem Holds.size (holds : b.Holds sent) : b.held.size = min sent.length b.capacity := by
  rw [← Array.length_toList, holds.held, List.length_drop]
  omega

theorem Holds.oldest (holds : b.Holds sent) : b.oldest = sent.length - b.capacity := by
  rw [Broadcast.oldest, holds.count, holds.size]
  omega

theorem Holds.get (holds : b.Holds sent) (reached : b.oldest ≤ next) :
    b.held[next - b.oldest]? = sent[next]? := by
  rw [← Array.getElem?_toList, holds.held, List.getElem?_drop, ← holds.oldest]
  congr 1
  omega

theorem holds_create (capacity : Nat) : (create capacity : Broadcast ε).Holds [] where
  room := Nat.pos_of_isPowerOfTwo (powerAbove_isLeast _).1.1
  count := rfl
  held := List.drop_nil.symm

/-- Nothing but the channel's items counts for what it holds. -/
theorem Holds.of_same (holds : b.Holds sent) (capacity : c.capacity = b.capacity)
    (count : c.published = b.published) (held : c.held = b.held) : c.Holds sent where
  room := capacity ▸ holds.room
  count := count ▸ holds.count
  held := by rw [held, capacity, holds.held]

theorem Holds.hold (holds : b.Holds sent) :
    (b.hold item).toList = (sent ++ [item]).drop (sent.length + 1 - b.capacity) := by
  have room := holds.room
  have size := holds.size
  unfold Broadcast.hold
  simp only [Array.size_push]
  split
  · next full =>
    have part : sent.length + 1 - b.capacity = sent.length - b.capacity + 1 := by omega
    have enough : sent.length - b.capacity < sent.length := by omega
    rw [Array.toList_extract, Array.toList_push, holds.held, part, List.extract_eq_take_drop,
      List.take_of_length_le (by simp; omega), List.drop_append_of_le_length (by simp; omega),
      List.drop_drop, List.drop_append_of_le_length (by omega)]
  · next room =>
    rw [Array.toList_push, holds.held, show sent.length - b.capacity = 0 by omega,
      show sent.length + 1 - b.capacity = 0 by omega, List.drop_zero, List.drop_zero]

theorem Holds.publish (holds : b.Holds sent) (listened : b.subscribers ≠ 0) :
    (b.publish item).2.Holds (sent ++ [item]) := by
  rw [Broadcast.publish, if_neg listened]
  refine ⟨holds.room, ?_, ?_⟩
  · rw [List.length_append, holds.count, List.length_singleton]
  · rw [List.length_append, List.length_singleton]
    exact holds.hold

/-! ## One look -/

/-- A look shows that something has been lost, or the next item, or that there is nothing more. -/
theorem Holds.look_cases (holds : b.Holds sent)
    (cursor : b.cursors[subscriber]? = some (some next)) :
    (next < sent.length - b.capacity ∧ b.look subscriber =
      (.behind (b.oldest - next), b.moveTo subscriber (sent.length - b.capacity))) ∨
    (sent.length - b.capacity ≤ next ∧ ∃ item, sent[next]? = some item ∧
      b.look subscriber = (.item item, b.moveTo subscriber (next + 1))) ∨
    (sent.length ≤ next ∧ b.look subscriber = (.nothing, b)) := by
  simp only [look, cursor]
  by_cases early : next < b.oldest
  · left
    rw [if_pos early, ← holds.oldest]
    exact ⟨early, rfl⟩
  · right
    rw [if_neg early, holds.get (by omega)]
    cases found : sent[next]? with
    | some item => exact .inl ⟨by rw [← holds.oldest]; omega, item, rfl, rfl⟩
    | none => exact .inr ⟨List.getElem?_eq_none_iff.1 found, rfl⟩

theorem look_of_absent (absent : b.isSubscribed subscriber = false) :
    b.look subscriber = (.nothing, b) := by
  unfold isSubscribed at absent
  unfold look
  split
  · next next cursor => simp [cursor] at absent
  · rfl

/-- A look changes nothing, or only the place of the one who looks. -/
theorem look_channel (b : Broadcast ε) (subscriber : Nat) :
    (b.look subscriber).2 = b ∨ ∃ next, (b.look subscriber).2 = b.moveTo subscriber next := by
  unfold look
  split
  · split
    · exact .inr ⟨_, rfl⟩
    · split
      · exact .inr ⟨_, rfl⟩
      · exact .inl rfl
  · exact .inl rfl

theorem cursor_moveTo (there : b.cursors[subscriber]? = some (some other)) (next : Nat) :
    (b.moveTo subscriber next).cursors[subscriber]? = some (some next) :=
  Array.getElem?_setIfInBounds_self_of_lt (Array.getElem?_eq_some_iff.1 there).1

theorem moveTo_moveTo (b : Broadcast ε) (subscriber first next : Nat) :
    (b.moveTo subscriber first).moveTo subscriber next = b.moveTo subscriber next := by
  simp only [moveTo, Array.setIfInBounds_setIfInBounds]

/-! ## Looking again -/

/-- Who has found that items have been lost finds the oldest one that is held at the next look. -/
theorem Holds.look_oldest (holds : b.Holds sent)
    (cursor : b.cursors[subscriber]? = some (some next)) (early : next < sent.length - b.capacity) :
    ∃ item, sent[sent.length - b.capacity]? = some item ∧
      (b.moveTo subscriber (sent.length - b.capacity)).look subscriber =
        (.item item, b.moveTo subscriber (sent.length - b.capacity + 1)) := by
  have moved := cursor_moveTo cursor (sent.length - b.capacity)
  have same : (b.moveTo subscriber (sent.length - b.capacity)).Holds sent :=
    holds.of_same rfl rfl rfl
  have room := holds.room
  rcases same.look_cases moved with ⟨again, -⟩ | ⟨-, item, found, seen⟩ | ⟨last, -⟩
  · exact absurd again (lt_irrefl _)
  · rw [moveTo_moveTo] at seen
    exact ⟨item, found, seen⟩
  · omega

theorem seek_of_item (seen : b.look subscriber = (.item item, c)) :
    b.seek subscriber = (some item, c) := by
  rw [seek]
  split <;> simp_all

theorem seek_of_nothing (seen : b.look subscriber = (.nothing, c)) :
    b.seek subscriber = (none, c) := by
  rw [seek]
  split <;> simp_all

theorem seek_of_behind {lost : Nat} (seen : b.look subscriber = (.behind lost, c)) :
    b.seek subscriber = c.seek subscriber := by
  rw [seek]
  split <;> simp_all

theorem receive_of_cursor (cursor : b.cursors[subscriber]? = some (some next)) :
    b.receive subscriber =
      match b.held[max next b.oldest - b.oldest]? with
      | some item => (some item, b.moveTo subscriber (max next b.oldest + 1))
      | none => (none, b) := by
  unfold receive
  rw [cursor]
  rfl

theorem receive_of_absent (absent : b.isSubscribed subscriber = false) :
    b.receive subscriber = (none, b) := by
  unfold isSubscribed at absent
  unfold receive
  split
  · next next cursor => simp [cursor] at absent
  · rfl

/-- To receive is to look until nothing more has been lost. -/
theorem Holds.receive_eq_seek (holds : b.Holds sent) (subscriber : Nat) :
    b.receive subscriber = b.seek subscriber := by
  by_cases there : b.isSubscribed subscriber
  · obtain ⟨next, cursor⟩ : ∃ next, b.cursors[subscriber]? = some (some next) := by
      unfold isSubscribed at there
      split at there
      · next next cursor => exact ⟨next, cursor⟩
      · cases there
    rw [receive_of_cursor cursor, holds.get (Nat.le_max_right _ _), holds.oldest]
    rcases holds.look_cases cursor with ⟨early, seen⟩ | ⟨reached, item, found, seen⟩ | ⟨last, seen⟩
    · -- The oldest item that is held is there to be found at the second look.
      obtain ⟨item, found, again⟩ := holds.look_oldest cursor early
      rw [seek_of_behind seen, Nat.max_eq_right early.le, found, seek_of_item again]
    · rw [Nat.max_eq_left reached, found, seek_of_item seen]
    · rw [Nat.max_eq_left (by omega), List.getElem?_eq_none last, seek_of_nothing seen]
  · have absent : b.isSubscribed subscriber = false := Bool.eq_false_iff.2 there
    rw [seek_of_nothing (look_of_absent absent), receive_of_absent absent]

/-! ## What leaves a place alone -/

theorem subscribers_ne_zero (there : b.cursors[subscriber]? = some (some next)) :
    b.subscribers ≠ 0 :=
  (Array.countP_pos_iff.2 ⟨_, Array.mem_of_getElem? there, rfl⟩).ne'

theorem publish_cursors (b : Broadcast ε) (item : ε) : (b.publish item).2.cursors = b.cursors := by
  unfold publish
  split <;> rfl

theorem publish_capacity (b : Broadcast ε) (item : ε) :
    (b.publish item).2.capacity = b.capacity := by
  unfold publish
  split <;> rfl

theorem cursor_subscribe (there : b.cursors[subscriber]? = some (some next)) :
    b.subscribe.2.cursors[subscriber]? = some (some next) := by
  have inside := (Array.getElem?_eq_some_iff.1 there).1
  rw [subscribe, Array.getElem?_push_lt inside]
  exact there ▸ (Array.getElem?_eq_getElem inside).symm

theorem cursor_unsubscribe (different : other ≠ subscriber) :
    (b.unsubscribe other).cursors[subscriber]? = b.cursors[subscriber]? :=
  Array.getElem?_setIfInBounds_ne different

theorem cursor_look (different : other ≠ subscriber) :
    (b.look other).2.cursors[subscriber]? = b.cursors[subscriber]? := by
  rcases look_channel b other with same | ⟨next, moved⟩
  · rw [same]
  · rw [moved]
    exact Array.getElem?_setIfInBounds_ne different

theorem look_capacity (b : Broadcast ε) (other : Nat) :
    (b.look other).2.capacity = b.capacity := by
  rcases look_channel b other with same | ⟨next, moved⟩
  · rw [same]
  · rw [moved]
    rfl

theorem size_look (b : Broadcast ε) (other : Nat) :
    (b.look other).2.cursors.size = b.cursors.size := by
  rcases look_channel b other with same | ⟨next, moved⟩
  · rw [same]
  · rw [moved]
    exact Array.size_setIfInBounds

theorem Holds.look (holds : b.Holds sent) : (b.look other).2.Holds sent := by
  rcases look_channel b other with same | ⟨next, moved⟩
  · rwa [same]
  · rw [moved]
    exact holds.of_same rfl rfl rfl

end Broadcast

end PlanarArm
