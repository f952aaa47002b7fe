import PlanarArm.Session.Broadcast

/-!
# Listening to a channel

A subscriber that asks for an item looks at its channel. One look shows the next item, or that items
have been lost to the subscriber, or that there is nothing new (`Sight`); after a loss it looks again
(`Broadcast.seek`). Between two looks anything can happen to the channel. `Bus.step` is one thing
that happens, in the smallest pieces, together with what becomes known of it. Somebody who asks keeps
nothing in mind from one look to the next, so that each look is a step of its own.
-/

namespace PlanarArm

/-- What one look at a channel shows to a subscriber. -/
inductive Sight (ε : Type) where
  /-- The next item. -/
  | item (item : ε)
  /-- So many items have been lost to the subscriber; it goes on with the oldest one that is held. -/
  | behind (lost : Nat)
  /-- Nothing new. -/
  | nothing

namespace Broadcast

variable {ε : Type}

/-- The channel when the next item for a subscriber is the one with this number. -/
def moveTo (b : Broadcast ε) (subscriber next : Nat) : Broadcast ε :=
  ⟨b.capacity, b.published, b.held, b.cursors.setIfInBounds subscriber (some next)⟩

/-- A subscriber looks at the channel once. -/
def look (b : Broadcast ε) (subscriber : Nat) : Sight ε × Broadcast ε :=
  match b.cursors[subscriber]? with
  | some (some next) =>
    if next < b.oldest then (.behind (b.oldest - next), b.moveTo subscriber b.oldest)
    else
      match b.held[next - b.oldest]? with
      | some item => (.item item, b.moveTo subscriber (next + 1))
      | none => (.nothing, b)
  | _ => (.nothing, b)

/-- The number of items that have been lost to a subscriber without its having noticed. -/
def lag (b : Broadcast ε) (subscriber : Nat) : Nat :=
  match b.cursors[subscriber]? with
  | some (some next) => b.oldest - next
  | _ => 0

theorem lag_look_lt {b c : Broadcast ε} {subscriber lost : Nat}
    (h : b.look subscriber = (.behind lost, c)) : c.lag subscriber < b.lag subscriber := by
  unfold look at h
  split at h
  · next next cursor =>
    split at h
    · next early =>
      cases h
      have inside : subscriber < b.cursors.size := (Array.getElem?_eq_some_iff.1 cursor).1
      simp only [lag, moveTo, oldest, cursor, Array.getElem?_setIfInBounds_self_of_lt inside]
      unfold oldest at early
      omega
    · split at h <;> cases h
  · cases h

/-- A subscriber looks until it has not lost anything more. -/
def seek (b : Broadcast ε) (subscriber : Nat) : Option ε × Broadcast ε :=
  match _h : b.look subscriber with
  | (.item item, c) => (some item, c)
  | (.behind _, c) => c.seek subscriber
  | (.nothing, c) => (none, c)
termination_by b.lag subscriber
decreasing_by exact lag_look_lt _h

end Broadcast

/-! ## What happens to a channel -/

/-- What somebody asks for. -/
inductive Demand where
  /-- An item that is there already. -/
  | present
  /-- An item that may have to be waited for. -/
  | coming

/-- The answer to a demand that a look gives, if it gives one: it may be that there is no item. Who
is ready to wait is told so only if there can be none any more. -/
def Demand.answer? {ε : Type} (demand : Demand) (isOpen : Bool) : Sight ε → Option (Option ε)
  | .item item => some (some item)
  | .behind _ => none
  | .nothing =>
    match demand with
    | .present => some none
    | .coming => if isOpen then none else some none

/-- A channel and those who publish on it. -/
structure Bus (ε : Type) where
  /-- The channel. -/
  channel : Broadcast ε
  /-- The number of those who can publish, let others subscribe, and let others publish. -/
  publishers : Nat

namespace Bus

variable {ε : Type}

/-- What can happen to a channel. -/
inductive Event (ε : Type) where
  /-- An item is published. -/
  | publish (item : ε)
  /-- There is one subscriber more. -/
  | subscribe
  /-- A subscriber goes. -/
  | unsubscribe (subscriber : Nat)
  /-- A subscriber that asks for an item looks at the channel. -/
  | look (subscriber : Nat) (demand : Demand)
  /-- There is one publisher more. -/
  | share
  /-- A publisher goes. -/
  | release

/-- What becomes known of it. -/
inductive Record (ε : Type) where
  /-- An item has been published. -/
  | published (item : ε)
  /-- The demand of a subscriber has been answered. -/
  | answered (subscriber : Nat) (demand : Demand) (answer : Option ε)
  /-- The last publisher has gone. -/
  | gone

/-- A channel with one publisher and without subscribers. -/
def create (capacity : Nat) : Bus ε :=
  ⟨.create capacity, 1⟩

/-- Whether somebody can still publish. -/
def isOpen (b : Bus ε) : Bool :=
  0 < b.publishers

/-- A subscriber that asks for an item looks at the channel. -/
def look (b : Bus ε) (subscriber : Nat) (demand : Demand) : Bus ε × List (Record ε) :=
  if b.channel.isSubscribed subscriber then
    let (sight, channel) := b.channel.look subscriber
    (⟨channel, b.publishers⟩,
      ((demand.answer? b.isOpen sight).map (.answered subscriber demand)).toList)
  else (b, [])

/-- One thing happens. What needs a publisher does not happen without one. -/
def step (b : Bus ε) : Event ε → Bus ε × List (Record ε)
  | .publish item =>
    if b.isOpen then (⟨(b.channel.publish item).2, b.publishers⟩, [.published item]) else (b, [])
  | .subscribe => if b.isOpen then (⟨b.channel.subscribe.2, b.publishers⟩, []) else (b, [])
  | .unsubscribe subscriber => (⟨b.channel.unsubscribe subscriber, b.publishers⟩, [])
  | .look subscriber demand => b.look subscriber demand
  | .share => if b.isOpen then (⟨b.channel, b.publishers + 1⟩, []) else (b, [])
  | .release =>
    (⟨b.channel, b.publishers - 1⟩, if b.publishers = 1 then [.gone] else [])

/-- The channel after one thing and another have happened. -/
def run (b : Bus ε) (events : List (Event ε)) : Bus ε :=
  events.foldl (fun b event => (b.step event).1) b

/-- All that becomes known meanwhile, in order. -/
def records (b : Bus ε) : List (Event ε) → List (Record ε)
  | [] => []
  | event :: rest => (b.step event).2 ++ records (b.step event).1 rest

end Bus

end PlanarArm
