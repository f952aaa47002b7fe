import Mathlib.Data.List.Infix
import Mathlib.Tactic.Common
import PlanarArm.Proofs.Session.Hearing
import PlanarArm.Proofs.Session.Ring

/-!
# What a subscriber hears

A subscriber that is there has heard or missed all that is before its place (`Bus.Stands`), and one
that has gone hears nothing more (`Bus.Absent`). Each thing that can happen to the channel leaves it
in one of these two ways (`Bus.Follows`).

## Main results

* `Bus.Stands.serves`: a request with which nothing interferes is answered with what is to be found.
* `Bus.subscriber_hears`: a subscriber hears some of what is published after it has subscribed, in
  order and each item once. It misses only what is out of reach before it comes to it, and it is
  told that there is nothing only if nothing is left for it.
-/

namespace PlanarArm

variable {ε : Type}

/-- Nothing but an end of all publishing is a reason to tell who waits that there is nothing. -/
theorem Demand.answer?_nothing {demand : Demand} {isOpen : Bool} {answer : Option ε}
    (told : demand.answer? isOpen .nothing = some answer) :
    answer = none ∧ (demand = .coming → isOpen = false) := by
  cases demand <;> cases isOpen <;> simp_all [Demand.answer?]

namespace Bus

variable {room subscriber other next : Nat} {log rest : List (Record ε)} {places : List Nat}
  {old : List ε} {bus c : Bus ε}

/-- A subscriber is there. `old` has been sent before it came, and `next` is the place of the next
item for it among those that have been published since. -/
structure Stands (room subscriber : Nat) (old : List ε) (bus : Bus ε) (log : List (Record ε))
    (places : List Nat) (next : Nat) : Prop where
  hears : Hears room subscriber log places
  capacity : bus.channel.capacity = room
  holds : bus.channel.Holds (old ++ sentIn log)
  cursor : bus.channel.cursors[subscriber]? = some (some (old.length + next))
  /-- What it has heard is behind it, -/
  before : ∀ place ∈ places, place < next
  /-- and so is what it has missed. -/
  passed : ∀ place < next, place ∉ places → Missed room subscriber log places place
  /-- It goes on behind what it has heard, if that is not out of reach. -/
  resumed : next = comingPlace places ∨ next + room ≤ (sentIn log).length
  gone : bus.isOpen = false → .gone ∈ log

/-- A subscriber is not there and will not come any more. -/
structure Absent (subscriber : Nat) (bus : Bus ε) : Prop where
  away : bus.channel.isSubscribed subscriber = false
  late : bus.channel.cursors.size ≤ subscriber → bus.isOpen = false

/-- A subscriber stands somewhere, or it has gone with what it has heard. -/
def Follows (room subscriber : Nat) (old : List ε) (bus : Bus ε) (log : List (Record ε)) : Prop :=
  ∃ places, (∃ next, Stands room subscriber old bus log places next) ∨
    (Absent subscriber bus ∧ Hears room subscriber log places)

theorem Stands.listened (stands : Stands room subscriber old bus log places next) :
    bus.channel.isSubscribed subscriber = true := by
  rw [Broadcast.isSubscribed, stands.cursor]

/-- What does not concern the subscriber leaves it where it stands. -/
theorem Stands.quiet (stands : Stands room subscriber old bus log places next)
    (quiet : ∀ record ∈ rest, record.Quiet subscriber)
    (capacity : c.channel.capacity = bus.channel.capacity)
    (holds : c.channel.Holds (old ++ sentIn (log ++ rest)))
    (cursor : c.channel.cursors[subscriber]? = bus.channel.cursors[subscriber]?)
    (gone : c.isOpen = false → bus.isOpen = false ∨ .gone ∈ rest) :
    Stands room subscriber old c (log ++ rest) places next where
  hears := stands.hears.quiet quiet
  capacity := capacity.trans stands.capacity
  holds := holds
  cursor := cursor.trans stands.cursor
  before := stands.before
  passed place behind absent := (stands.passed place behind absent).later rest
  resumed := stands.resumed.imp_right fun behind => by
    rw [sentIn_append, List.length_append]
    omega
  gone closed := List.mem_append.2 ((gone closed).imp_left stands.gone)

/-- Where nothing becomes known, only the subscriber's own place and the items count. -/
theorem Stands.silent (stands : Stands room subscriber old bus log places next)
    (capacity : c.channel.capacity = bus.channel.capacity)
    (count : c.channel.published = bus.channel.published)
    (held : c.channel.held = bus.channel.held)
    (cursor : c.channel.cursors[subscriber]? = bus.channel.cursors[subscriber]?)
    (closed : c.isOpen = false → bus.isOpen = false) :
    Follows room subscriber old c (log ++ []) := by
  refine ⟨places, .inl ⟨next, stands.quiet (by simp) capacity ?_ cursor fun shut => ?_⟩⟩
  · rw [List.append_nil]
    exact stands.holds.of_same capacity count held
  · exact .inl (closed shut)

theorem Stands.same (stands : Stands room subscriber old bus log places next) :
    Follows room subscriber old bus (log ++ []) :=
  stands.silent rfl rfl rfl rfl id

/-- The subscriber finds that the channel is past its place. What it goes past is out of reach. -/
theorem Stands.behind (stands : Stands room subscriber old bus log places next)
    (early : old.length + next < (old ++ sentIn log).length - room) :
    ∃ resumed, Stands room subscriber old
      ⟨bus.channel.moveTo subscriber ((old ++ sentIn log).length - room), bus.publishers⟩
      log places resumed := by
  rw [List.length_append] at early ⊢
  have place : old.length + ((sentIn log).length - room) =
      old.length + (sentIn log).length - room := by omega
  refine ⟨(sentIn log).length - room, stands.hears, stands.capacity,
    stands.holds.of_same rfl rfl rfl, place ▸ Broadcast.cursor_moveTo stands.cursor _, ?_, ?_,
    .inr (by omega), stands.gone⟩
  · intro heard member
    have behind := stands.before heard member
    omega
  · intro place ahead absent
    by_cases behind : place < next
    · exact stands.passed place behind absent
    · refine ⟨log, List.prefix_refl log, by omega, fun heard member => ?_⟩
      exact (stands.before heard (List.mem_of_mem_take member)).trans_le (not_lt.1 behind)

/-- The subscriber finds its next item. -/
theorem Stands.item {item : ε} (stands : Stands room subscriber old bus log places next)
    (demand : Demand) (found : (old ++ sentIn log)[old.length + next]? = some item) :
    Stands room subscriber old
      ⟨bus.channel.moveTo subscriber (old.length + next + 1), bus.publishers⟩
      (log ++ [.answered subscriber demand (some item)]) (places ++ [next]) (next + 1) := by
  have there : (sentIn log)[next]? = some item := by
    rwa [List.getElem?_append_right (Nat.le_add_right _ _), Nat.add_sub_cancel_left] at found
  have same : sentIn (log ++ [.answered subscriber demand (some item)]) = sentIn log := by
    rw [sentIn_append]
    exact List.append_nil _
  refine ⟨?_, stands.capacity, ?_, Broadcast.cursor_moveTo stands.cursor _, ?_, ?_, .inl ?_, ?_⟩
  · refine stands.hears.snoc _ [next] ?_ (List.pairwise_singleton _ _) ?_ ?_ ?_
    · simp [heardBy, there]
    · simpa using stands.before
    · simpa using stands.passed
    · simp
  · rw [same]
    exact stands.holds.of_same rfl rfl rfl
  · intro heard member
    rcases List.mem_append.1 member with member | member
    · exact Nat.lt_succ_of_lt (stands.before heard member)
    · rw [List.mem_singleton.1 member]
      exact Nat.lt_succ_self next
  · intro place behind absent
    rw [List.mem_append, List.mem_singleton, not_or] at absent
    have missed := stands.passed place (by omega) absent.1
    exact (missed.append stands.hears.length.le [next]).later _
  · rw [comingPlace, List.getLast?_concat, Option.elim_some]
  · exact fun closed => List.mem_append_left _ (stands.gone closed)

/-- The subscriber is told that there is nothing. -/
theorem Stands.nothing (stands : Stands room subscriber old bus log places next)
    (demand : Demand) (last : (old ++ sentIn log).length ≤ old.length + next)
    (closing : demand = .coming → bus.isOpen = false) :
    Stands room subscriber old bus (log ++ [.answered subscriber demand none]) places next := by
  have same : sentIn (log ++ [.answered subscriber demand none]) = sentIn log := by
    rw [sentIn_append]
    exact List.append_nil _
  rw [List.length_append] at last
  have hears := stands.hears.snoc (.answered subscriber demand none) [] rfl .nil (by simp)
    (by simp) ?_
  · rw [List.append_nil] at hears
    exact ⟨hears, stands.capacity, same ▸ stands.holds, stands.cursor, stands.before,
      fun place behind absent => (stands.passed place behind absent).later _, same ▸ stands.resumed,
      fun closed => List.mem_append_left _ (stands.gone closed)⟩
  · intro other same
    obtain rfl : demand = other := by cases same; rfl
    refine ⟨fun place inside held => ?_, fun waits => stands.gone (closing waits)⟩
    by_contra absent
    obtain ⟨early, start, behind, -⟩ := stands.passed place (by omega) absent
    have shorter : (sentIn early).length ≤ (sentIn log).length := (start.filterMap _).length_le
    omega

theorem look_eq (there : bus.channel.isSubscribed other) (demand : Demand) :
    bus.look other demand = (⟨(bus.channel.look other).2, bus.publishers⟩,
      ((demand.answer? bus.isOpen (bus.channel.look other).1).map
        (.answered other demand)).toList) := by
  rw [Bus.look, if_pos there]

theorem comingPlace_le (before : ∀ place ∈ places, place < next) : comingPlace places ≤ next := by
  unfold comingPlace
  cases last : places.getLast? with
  | none => exact Nat.zero_le next
  | some place => exact before place (List.mem_of_getLast? last)

/-- The subscriber looks as often as it has to. -/
theorem Stands.seek (stands : Stands room subscriber old bus log places next) :
    (bus.channel.seek subscriber).1 =
      (sentIn log)[max ((sentIn log).length - room) (comingPlace places)]? := by
  have coming := comingPlace_le stands.before
  have place : max ((sentIn log).length - room) (comingPlace places) =
      max ((sentIn log).length - room) next := by
    rcases stands.resumed with same | behind
    · rw [same]
    · omega
  have found : (old ++ sentIn log)[max (old.length + next) bus.channel.oldest]? =
      (sentIn log)[max ((sentIn log).length - room) next]? := by
    rw [stands.holds.oldest, stands.capacity, List.length_append,
      List.getElem?_append_right (by omega)]
    congr 1
    omega
  rw [← stands.holds.receive_eq_seek, Broadcast.receive_of_cursor stands.cursor,
    stands.holds.get (Nat.le_max_right _ _), found, place]
  cases (sentIn log)[max ((sentIn log).length - room) next]? <;> rfl

/-- What comes of a request with which nothing else interferes. -/
structure Serves (bus : Bus ε) (subscriber : Nat) : Prop where
  /-- If there is an item to be found, it is the answer, whatever the demand is, at the first look
  or else at the second one, -/
  item : ∀ item demand, (bus.channel.seek subscriber).1 = some item →
    ∃ looks, (looks = 1 ∨ looks = 2) ∧
      let asks := List.replicate looks (.look subscriber demand)
      bus.records asks = [.answered subscriber demand (some item)] ∧
        (bus.run asks).channel = (bus.channel.seek subscriber).2
  /-- and if there is none, this is the answer, except that who is ready to wait goes on to wait as
  long as there are publishers. -/
  nothing : (bus.channel.seek subscriber).1 = none →
    bus.records [.look subscriber .present] = [.answered subscriber .present none] ∧
      bus.records [.look subscriber .coming] =
        if bus.isOpen then [] else [.answered subscriber .coming none]

theorem look_of_sight {sight : Sight ε} {channel : Broadcast ε}
    (there : bus.channel.isSubscribed subscriber = true)
    (seen : bus.channel.look subscriber = (sight, channel)) (demand : Demand) :
    bus.look subscriber demand = (⟨channel, bus.publishers⟩,
      ((demand.answer? bus.isOpen sight).map (.answered subscriber demand)).toList) := by
  rw [look_eq there, seen]

/-- An item that is found at the first look is the answer. -/
theorem serves_of_item {item : ε} {channel : Broadcast ε}
    (there : bus.channel.isSubscribed subscriber = true)
    (seen : bus.channel.look subscriber = (.item item, channel)) : bus.Serves subscriber where
  item other demand found := by
    have looked := look_of_sight there seen demand
    rw [Broadcast.seek_of_item seen] at found ⊢
    obtain rfl := Option.some.inj found
    refine ⟨1, .inl rfl, ?_, ?_⟩
    · simp only [List.replicate, records, step, looked]
      rfl
    · simp only [List.replicate, run, List.foldl, step, looked]
  nothing none := by
    rw [Broadcast.seek_of_item seen] at none
    cases none

/-- So is the one that is found at the second look, if the first has shown a loss. -/
theorem serves_of_behind {lost : Nat} {item : ε} {moved channel : Broadcast ε}
    (there : bus.channel.isSubscribed subscriber = true)
    (seen : bus.channel.look subscriber = (.behind lost, moved))
    (still : moved.isSubscribed subscriber = true)
    (again : moved.look subscriber = (.item item, channel)) : bus.Serves subscriber where
  item other demand found := by
    have first := look_of_sight there seen demand
    have second : (⟨moved, bus.publishers⟩ : Bus ε).look subscriber demand = _ :=
      look_of_sight still again demand
    rw [Broadcast.seek_of_behind seen, Broadcast.seek_of_item again] at found ⊢
    obtain rfl := Option.some.inj found
    refine ⟨2, .inr rfl, ?_, ?_⟩
    · simp only [List.replicate, records, step, first, second]
      rfl
    · simp only [List.replicate, run, List.foldl, step, first, second]
  nothing none := by
    rw [Broadcast.seek_of_behind seen, Broadcast.seek_of_item again] at none
    cases none

theorem serves_of_nothing {channel : Broadcast ε}
    (there : bus.channel.isSubscribed subscriber = true)
    (seen : bus.channel.look subscriber = (.nothing, channel)) : bus.Serves subscriber where
  item item demand found := by
    rw [Broadcast.seek_of_nothing seen] at found
    cases found
  nothing _ := by
    constructor
    · simp only [records, step, look_of_sight there seen]
      rfl
    · simp only [records, step, look_of_sight there seen, Demand.answer?]
      split <;> rfl

/-- The subscriber asks and is not interrupted. -/
theorem Stands.serves (stands : Stands room subscriber old bus log places next) :
    bus.Serves subscriber := by
  have there := stands.listened
  rcases stands.holds.look_cases stands.cursor with ⟨early, seen⟩ | ⟨-, item, -, seen⟩ | ⟨-, seen⟩
  · obtain ⟨item, -, again⟩ := stands.holds.look_oldest stands.cursor early
    refine serves_of_behind there seen ?_ again
    rw [Broadcast.isSubscribed, Broadcast.cursor_moveTo stands.cursor]
  · exact serves_of_item there seen
  · exact serves_of_nothing there seen

/-- The subscriber looks. -/
theorem Stands.look (stands : Stands room subscriber old bus log places next) (demand : Demand) :
    Follows room subscriber old (bus.look subscriber demand).1
      (log ++ (bus.look subscriber demand).2) := by
  rw [look_eq stands.listened]
  rcases stands.holds.look_cases stands.cursor with
    ⟨early, seen⟩ | ⟨reached, item, found, seen⟩ | ⟨last, seen⟩
  · rw [stands.capacity] at early seen
    rw [seen]
    obtain ⟨resumed, stands⟩ := stands.behind early
    exact ⟨places, .inl ⟨resumed, by simpa [Demand.answer?] using stands⟩⟩
  · rw [seen]
    exact ⟨_, .inl ⟨_, stands.item demand found⟩⟩
  · rw [seen]
    cases told : demand.answer? bus.isOpen (.nothing : Sight ε) with
    | none => exact stands.same
    | some answer =>
      obtain ⟨rfl, closing⟩ := Demand.answer?_nothing told
      exact ⟨places, .inl ⟨next, stands.nothing demand last closing⟩⟩

theorem look_channel (bus : Bus ε) (other : Nat) (demand : Demand) :
    (bus.look other demand).1 = bus ∨
      (bus.look other demand).1 = ⟨(bus.channel.look other).2, bus.publishers⟩ := by
  by_cases there : bus.channel.isSubscribed other
  · rw [look_eq there]
    exact .inr rfl
  · rw [Bus.look, if_neg there]
    exact .inl rfl

/-- All that a look makes known is an answer to the one who looks. -/
theorem look_records (bus : Bus ε) (other : Nat) (demand : Demand) :
    (bus.look other demand).2 = [] ∨
      ∃ answer, (bus.look other demand).2 = [.answered other demand answer] := by
  by_cases there : bus.channel.isSubscribed other
  · rw [look_eq there]
    cases demand.answer? bus.isOpen (bus.channel.look other).1 with
    | none => exact .inl rfl
    | some answer => exact .inr ⟨answer, rfl⟩
  · rw [Bus.look, if_neg there]
    exact .inl rfl

theorem look_quiet (different : other ≠ subscriber) (demand : Demand) :
    ∀ record ∈ (bus.look other demand).2, record.Quiet subscriber := by
  rcases look_records bus other demand with none | ⟨answer, told⟩
  · simp [none]
  · rw [told, List.forall_mem_singleton]
    exact different

theorem sentIn_look (bus : Bus ε) (other : Nat) (demand : Demand) :
    sentIn (bus.look other demand).2 = [] := by
  rcases look_records bus other demand with none | ⟨answer, told⟩
  · rw [none]
    rfl
  · rw [told]
    rfl

/-- Somebody else looks. -/
theorem Stands.beside (stands : Stands room subscriber old bus log places next)
    (different : other ≠ subscriber) (demand : Demand) :
    Stands room subscriber old (bus.look other demand).1 (log ++ (bus.look other demand).2) places
      next := by
  have same : sentIn (log ++ (bus.look other demand).2) = sentIn log := by
    rw [sentIn_append, sentIn_look, List.append_nil]
  refine stands.quiet (look_quiet different demand) ?_ ?_ ?_ ?_
  all_goals rcases look_channel bus other demand with kept | looked
  · rw [kept]
  · rw [looked, Broadcast.look_capacity]
  · rw [kept, same]
    exact stands.holds
  · rw [looked, same]
    exact stands.holds.look
  · rw [kept]
  · rw [looked, Broadcast.cursor_look different]
  · rw [kept]
    exact .inl
  · rw [looked]
    exact .inl

/-- What has no effect on the subscriber's place leaves it away. -/
theorem Absent.keep (absent : Absent subscriber bus)
    (cursor : c.channel.cursors[subscriber]? = bus.channel.cursors[subscriber]?)
    (size : bus.channel.cursors.size ≤ c.channel.cursors.size)
    (closed : bus.isOpen = false → c.isOpen = false) : Absent subscriber c where
  away := by
    rw [Broadcast.isSubscribed, cursor]
    exact absent.away
  late outside := closed (absent.late (size.trans outside))

theorem absent_unsubscribe (late : bus.channel.cursors.size ≤ subscriber → bus.isOpen = false) :
    Absent subscriber ⟨bus.channel.unsubscribe subscriber, bus.publishers⟩ where
  away := by
    rw [Broadcast.isSubscribed, Broadcast.unsubscribe, Array.getElem?_setIfInBounds, if_pos rfl]
    by_cases inside : subscriber < bus.channel.cursors.size
    · rw [if_pos inside]
    · rw [if_neg inside]
  late outside := late (by rwa [Broadcast.unsubscribe, Array.size_setIfInBounds] at outside)

/-- Everything that can happen leaves a subscriber that is there somewhere. -/
theorem Stands.step (stands : Stands room subscriber old bus log places next) (event : Event ε) :
    Follows room subscriber old (bus.step event).1 (log ++ (bus.step event).2) := by
  cases event with
  | publish item =>
    rw [Bus.step]
    split
    · refine ⟨places, .inl ⟨next, stands.quiet (by simp [Record.Quiet])
        (Broadcast.publish_capacity _ item) ?_ ?_ .inl⟩⟩
      · rw [sentIn_append, ← List.append_assoc]
        exact stands.holds.publish (Broadcast.subscribers_ne_zero stands.cursor)
      · rw [Broadcast.publish_cursors]
    · exact stands.same
  | subscribe =>
    rw [Bus.step]
    split
    · refine stands.silent rfl rfl rfl ?_ id
      rw [stands.cursor]
      exact Broadcast.cursor_subscribe stands.cursor
    · exact stands.same
  | unsubscribe other =>
    rw [Bus.step]
    by_cases itself : other = subscriber
    · subst itself
      have inside := (Array.getElem?_eq_some_iff.1 stands.cursor).1
      refine ⟨places, .inr ⟨absent_unsubscribe fun outside => ?_, stands.hears.quiet (by simp)⟩⟩
      exact absurd inside (not_lt.2 outside)
    · exact stands.silent rfl rfl rfl (Broadcast.cursor_unsubscribe itself) id
  | look other demand =>
    rw [Bus.step]
    by_cases itself : other = subscriber
    · subst itself
      exact stands.look demand
    · exact ⟨places, .inl ⟨next, stands.beside itself demand⟩⟩
  | share =>
    rw [Bus.step]
    split
    · refine stands.silent rfl rfl rfl rfl fun closed => ?_
      simp [Bus.isOpen] at closed
    · exact stands.same
  | release =>
    rw [Bus.step]
    refine ⟨places, .inl ⟨next, stands.quiet ?_ rfl ?_ rfl ?_⟩⟩
    · split <;> simp [Record.Quiet]
    · rw [sentIn_append, show sentIn (if bus.publishers = 1 then [.gone] else []) = ([] : List ε) by
        split <;> rfl, List.append_nil]
      exact stands.holds
    · simp only [Bus.isOpen, decide_eq_false_iff_not, not_lt, Nat.le_zero]
      intro closed
      by_cases single : bus.publishers = 1
      · exact .inr (by simp [single])
      · exact .inl (by omega)

/-- A subscriber that has gone stays away, and nothing is told to it any more. -/
theorem Absent.step (absent : Absent subscriber bus) (event : Event ε) :
    Absent subscriber (bus.step event).1 ∧
      ∀ record ∈ (bus.step event).2, record.Quiet subscriber := by
  cases event with
  | publish item =>
    rw [Bus.step]
    split
    · refine ⟨absent.keep ?_ ?_ id, by simp [Record.Quiet]⟩
      · rw [Broadcast.publish_cursors]
      · rw [Broadcast.publish_cursors]
    · exact ⟨absent, by simp⟩
  | subscribe =>
    rw [Bus.step]
    split
    · next isOpen =>
      have inside : subscriber < bus.channel.cursors.size := by
        by_contra outside
        rw [absent.late (not_lt.1 outside)] at isOpen
        cases isOpen
      refine ⟨absent.keep ?_ ?_ id, by simp⟩
      · rw [Broadcast.subscribe, Array.getElem?_push_lt inside, Array.getElem?_eq_getElem inside]
      · rw [Broadcast.subscribe, Array.size_push]
        exact Nat.le_succ _
    · exact ⟨absent, by simp⟩
  | unsubscribe other =>
    rw [Bus.step]
    refine ⟨?_, by simp⟩
    by_cases itself : other = subscriber
    · subst itself
      exact absent_unsubscribe absent.late
    · refine absent.keep (Broadcast.cursor_unsubscribe itself) ?_ id
      rw [Broadcast.unsubscribe, Array.size_setIfInBounds]
  | look other demand =>
    rw [Bus.step]
    by_cases itself : other = subscriber
    · subst itself
      rw [Bus.look, if_neg (by simp [absent.away])]
      exact ⟨absent, by simp⟩
    · refine ⟨?_, look_quiet itself demand⟩
      rcases look_channel bus other demand with kept | looked
      · rwa [kept]
      · rw [looked]
        exact absent.keep (Broadcast.cursor_look itself) (Broadcast.size_look _ _).ge id
  | share =>
    rw [Bus.step]
    split
    · next isOpen =>
      refine ⟨absent.keep rfl le_rfl fun closed => ?_, by simp⟩
      rw [closed] at isOpen
      cases isOpen
    · exact ⟨absent, by simp⟩
  | release =>
    rw [Bus.step]
    refine ⟨absent.keep rfl le_rfl fun closed => ?_, ?_⟩
    · simp only [Bus.isOpen, decide_eq_false_iff_not, not_lt] at closed ⊢
      omega
    · split <;> simp [Record.Quiet]

/-- Everything that can happen leaves a subscriber somewhere. -/
theorem Follows.step (follows : Follows room subscriber old bus log) (event : Event ε) :
    Follows room subscriber old (bus.step event).1 (log ++ (bus.step event).2) := by
  obtain ⟨places, ⟨next, stands⟩ | ⟨absent, hears⟩⟩ := follows
  · exact stands.step event
  · obtain ⟨away, quiet⟩ := absent.step event
    exact ⟨places, .inr ⟨away, hears.quiet quiet⟩⟩

theorem Follows.records (follows : Follows room subscriber old bus log) (events : List (Event ε)) :
    Follows room subscriber old (bus.run events) (log ++ bus.records events) := by
  induction events generalizing bus log with
  | nil => rwa [Bus.records, List.append_nil]
  | cons event rest ih =>
    rw [Bus.records, ← List.append_assoc]
    exact ih (follows.step event)

/-! ## From the beginning -/

theorem step_holds {sent : List ε} (holds : bus.channel.Holds sent) (event : Event ε) :
    (bus.step event).1.channel.capacity = bus.channel.capacity ∧
      ∃ sent, (bus.step event).1.channel.Holds sent := by
  cases event with
  | publish item =>
    rw [Bus.step]
    split
    · refine ⟨Broadcast.publish_capacity _ item, ?_⟩
      by_cases nobody : bus.channel.subscribers = 0
      · exact ⟨sent, by rwa [Broadcast.publish, if_pos nobody]⟩
      · exact ⟨sent ++ [item], holds.publish nobody⟩
    · exact ⟨rfl, sent, holds⟩
  | subscribe =>
    rw [Bus.step]
    split
    · exact ⟨rfl, sent, holds.of_same rfl rfl rfl⟩
    · exact ⟨rfl, sent, holds⟩
  | unsubscribe other => exact ⟨rfl, sent, holds.of_same rfl rfl rfl⟩
  | look other demand =>
    rw [Bus.step]
    rcases look_channel bus other demand with kept | looked
    · rw [kept]
      exact ⟨rfl, sent, holds⟩
    · rw [looked]
      exact ⟨Broadcast.look_capacity _ other, sent, holds.look⟩
  | share =>
    rw [Bus.step]
    split <;> exact ⟨rfl, sent, holds⟩
  | release => exact ⟨rfl, sent, holds⟩

theorem run_holds {sent : List ε} (holds : bus.channel.Holds sent) (events : List (Event ε)) :
    (bus.run events).channel.capacity = bus.channel.capacity ∧
      ∃ sent, (bus.run events).channel.Holds sent := by
  induction events generalizing bus sent with
  | nil => exact ⟨rfl, sent, holds⟩
  | cons event rest ih =>
    obtain ⟨capacity, sent, holds⟩ := step_holds holds event
    obtain ⟨same, found⟩ := ih holds
    exact ⟨same.trans capacity, found⟩

/-- A subscriber has heard nothing when it comes. -/
theorem follows_subscribe {sent : List ε} (holds : bus.channel.Holds sent) :
    Follows bus.channel.capacity bus.channel.subscribe.1 sent (bus.step .subscribe).1 [] := by
  rw [Bus.step]
  split
  · next isOpen =>
    refine ⟨[], .inl ⟨0, hears_nil, rfl, ?_, ?_, by simp, by simp, .inl rfl, ?_⟩⟩
    · rw [sentIn, List.filterMap_nil, List.append_nil]
      exact holds.of_same rfl rfl rfl
    · rw [Broadcast.subscribe, Array.getElem?_push_size, holds.count, Nat.add_zero]
    · exact fun closed => absurd isOpen (Bool.eq_false_iff.1 closed)
  · next closed =>
    refine ⟨[], .inr ⟨⟨?_, fun _ => Bool.eq_false_iff.2 closed⟩, hears_nil⟩⟩
    rw [Broadcast.isSubscribed, Broadcast.subscribe, Array.getElem?_size]

/-- A subscriber hears some of what is published after it has subscribed, in order and each item
once, whatever else happens to the channel in between. It misses an item only if as many as the
channel has room for are published behind it before the subscriber comes to it. It is told that
there is nothing only if it has heard all that is held, and while it waits only if all publishers
are gone. As long as it is there, it can get the oldest item that is held and behind all that it has
heard, and that is what it is answered with if it asks and nothing else happens meanwhile. -/
theorem subscriber_hears (capacity : Nat) (before later : List (Event ε)) :
    let bus := (((create capacity).run before).step .subscribe).1
    let subscriber := ((create capacity : Bus ε).run before).channel.subscribe.1
    let log := bus.records later
    ∃ room, IsLeast {power : Nat | power.isPowerOfTwo ∧ max capacity 1 ≤ power} room ∧
      ∃ places, Hears room subscriber log places ∧
        ((bus.run later).channel.isSubscribed subscriber →
          ((bus.run later).channel.seek subscriber).1 =
            (sentIn log)[max ((sentIn log).length - room) (comingPlace places)]? ∧
          (bus.run later).Serves subscriber) := by
  intro bus subscriber log
  have created : (create capacity : Bus ε).channel.Holds [] := Broadcast.holds_create capacity
  obtain ⟨same, sent, holds⟩ := run_holds created before
  have follows := (follows_subscribe holds).records later
  rw [same, List.nil_append] at follows
  refine ⟨_, Broadcast.powerAbove_isLeast _, ?_⟩
  obtain ⟨places, ⟨next, stands⟩ | ⟨absent, hears⟩⟩ := follows
  · exact ⟨places, stands.hears, fun _ => ⟨stands.seek, stands.serves⟩⟩
  · exact ⟨places, hears, fun there => absurd there (Bool.eq_false_iff.1 absent.away)⟩

/-- Twenty items go past a subscriber of a channel for four, which then asks once. It has missed the
first ones, hears the seventeenth, and will hear the next one when it asks again. -/
theorem subscriber_hears_lagging :
    let later : List (Event Nat) := (List.range 20).map .publish ++
      [.look 0 .coming, .look 0 .coming]
    let bus := (((create 4).run []).step .subscribe).1
    let log := bus.records later
    heardBy 0 log = [16] ∧ Missed 4 0 log [16] 0 ∧
      ∃ looks, (looks = 1 ∨ looks = 2) ∧
        (bus.run later).records (List.replicate looks (.look 0 .coming)) =
          [.answered 0 .coming (some 17)] := by
  intro later bus log
  obtain ⟨room, least, places, hears, there⟩ := subscriber_hears 4 [] later
  obtain rfl : room = 4 := least.unique ⟨⟨⟨2, rfl⟩, by decide⟩, fun _ above => above.2⟩
  have heard : heardBy 0 log = [16] := by decide +kernel
  have sent : sentIn log = List.range 20 := by decide +kernel
  have found : (heardBy 0 log).map some = places.map ((sentIn log)[·]?) := hears.heard
  rw [heard, sent] at found
  obtain ⟨place, rfl, same⟩ := List.map_eq_singleton_iff.1 found.symm
  obtain ⟨inside, same⟩ := List.getElem?_eq_some_iff.1 same
  rw [List.getElem_range] at same
  subst same
  obtain ⟨sought, serves⟩ := there (by decide +kernel)
  have next : ((bus.run later).channel.seek 0).1 =
      (sentIn log)[max ((sentIn log).length - 4) (comingPlace [16])]? := sought
  rw [sent] at next
  obtain ⟨looks, once, answered, -⟩ := serves.item 17 .coming next
  exact ⟨heard, hears.missed 0 16 (by decide) (by decide) (by decide), looks, once, answered⟩

end Bus

end PlanarArm
