/-!
# Broadcasting

What is published goes to everybody who has subscribed before. Only the latest items are held, as
many as the capacity says; a subscriber that falls further behind loses the items in between and
goes on with the oldest one that is still held.
-/

namespace PlanarArm

/-- A channel with the items that are still held and the places of its subscribers. -/
structure Broadcast (ε : Type) where
  /-- The most items that are held. -/
  capacity : Nat
  /-- The number of items that have been published. -/
  published : Nat
  /-- The latest items, oldest first. -/
  held : Array ε
  /-- For each subscriber the number of items published before the next one it is to get; none if it
  has gone. -/
  cursors : Array (Option Nat)

namespace Broadcast

variable {ε : Type}

/-- The least power of two that is not below `n`. -/
def powerAbove (n : Nat) : Nat :=
  if n ≤ 1 then 1 else 1 <<< ((n - 1).log2 + 1)

/-- A channel without subscribers that holds `capacity` items, rounded up to a power of two. -/
def create (capacity : Nat) : Broadcast ε :=
  ⟨powerAbove (max capacity 1), 0, #[], #[]⟩

/-- The number of subscribers. -/
def subscribers (b : Broadcast ε) : Nat :=
  b.cursors.countP Option.isSome

/-- The number of items that were published before the oldest one that is held. -/
def oldest (b : Broadcast ε) : Nat :=
  b.published - b.held.size

/-- Holds one more item, and lets go of the oldest one if there are too many. -/
def hold (b : Broadcast ε) (item : ε) : Array ε :=
  let held := b.held.push item
  if b.capacity < held.size then held.extract 1 held.size else held

/-- Publishes an item; also returns the number of subscribers. An item that nobody will get is not
held. -/
def publish (b : Broadcast ε) (item : ε) : Nat × Broadcast ε :=
  if b.subscribers = 0 then (0, b)
  else (b.subscribers, ⟨b.capacity, b.published + 1, b.hold item, b.cursors⟩)

/-- A further subscriber, which gets what is published from now on. -/
def subscribe (b : Broadcast ε) : Nat × Broadcast ε :=
  (b.cursors.size, ⟨b.capacity, b.published, b.held, b.cursors.push (some b.published)⟩)

/-- A subscriber goes. -/
def unsubscribe (b : Broadcast ε) (subscriber : Nat) : Broadcast ε :=
  ⟨b.capacity, b.published, b.held, b.cursors.setIfInBounds subscriber none⟩

/-- Whether a subscriber is there. -/
def isSubscribed (b : Broadcast ε) (subscriber : Nat) : Bool :=
  match b.cursors[subscriber]? with
  | some (some _) => true
  | _ => false

/-- The next item for a subscriber, if there is one that is still held and unread. -/
def receive (b : Broadcast ε) (subscriber : Nat) : Option ε × Broadcast ε :=
  match b.cursors[subscriber]? with
  | some (some next) =>
    let next := max next b.oldest
    match b.held[next - b.oldest]? with
    | some item =>
      (some item, ⟨b.capacity, b.published, b.held,
        b.cursors.setIfInBounds subscriber (some (next + 1))⟩)
    | none => (none, b)
  | _ => (none, b)

/-- All items that a subscriber can still get, oldest first. -/
def receiveAll (b : Broadcast ε) (subscriber : Nat) : Array ε × Broadcast ε :=
  match b.cursors[subscriber]? with
  | some (some next) =>
    (b.held.extract (max next b.oldest - b.oldest) b.held.size,
      ⟨b.capacity, b.published, b.held, b.cursors.setIfInBounds subscriber (some b.published)⟩)
  | _ => (#[], b)

end Broadcast

end PlanarArm
