import Mathlib.Data.List.Infix
import Mathlib.Tactic.Common
import PlanarArm.Session.Listening

/-!
# What is heard

What a subscriber hears is told by the places of the items among those that have been published
since it subscribed (`Bus.Hears`). Here only what has become known counts, whatever channel it comes
from.

## Main results

* `Bus.Hears.snoc`: what is heard once one thing more has become known.
-/

namespace PlanarArm

variable {ε : Type}

namespace Bus

/-- The items that have been published. -/
def sentIn (log : List (Record ε)) : List ε :=
  log.filterMap fun
    | .published item => some item
    | _ => none

/-- The items that a subscriber has heard. -/
def heardBy (subscriber : Nat) (log : List (Record ε)) : List ε :=
  log.filterMap fun
    | .answered other _ (some item) => if other = subscriber then some item else none
    | _ => none

/-- The item at a place was out of reach before the subscriber came to it: as many as the channel
has room for had been published behind it. -/
def Missed (room subscriber : Nat) (log : List (Record ε)) (places : List Nat) (place : Nat) :
    Prop :=
  ∃ early, early <+: log ∧ place + room < (sentIn early).length ∧
    ∀ heard ∈ places.take (heardBy subscriber early).length, heard < place

/-- What a subscriber hears, told by what has become known since it subscribed. The items that it
hears have these places among all that have been published. -/
structure Hears (room subscriber : Nat) (log : List (Record ε)) (places : List Nat) : Prop where
  /-- Each item that is heard has been published, -/
  heard : (heardBy subscriber log).map some = places.map ((sentIn log)[·]?)
  /-- and that before it is heard. -/
  known : ∀ early, early <+: log →
    ∀ place ∈ places.take (heardBy subscriber early).length, place < (sentIn early).length
  /-- The items are heard in order, each of them once. -/
  inOrder : places.Pairwise (· < ·)
  /-- An item that is passed over had been out of reach. -/
  missed : ∀ place, ∀ later ∈ places, place < later → place ∉ places →
    Missed room subscriber log places place
  /-- Who is told that there is nothing has heard all that is still held, and was not ready to wait
  or had to wait for nobody. -/
  refused : ∀ early demand, early ++ [.answered subscriber demand none] <+: log →
    (∀ place < (sentIn early).length, (sentIn early).length ≤ place + room →
      place ∈ places.take (heardBy subscriber early).length) ∧
    (demand = .coming → .gone ∈ early)

/-- The place behind all that has been heard. -/
def comingPlace (places : List Nat) : Nat :=
  places.getLast?.elim 0 (· + 1)

variable {room subscriber place : Nat} {log rest : List (Record ε)} {record : Record ε}
  {places more : List Nat}

/-- The record is not about this subscriber. -/
def Record.Quiet (subscriber : Nat) : Record ε → Prop
  | .answered other _ _ => other ≠ subscriber
  | _ => True

theorem sentIn_append (log rest : List (Record ε)) :
    sentIn (log ++ rest) = sentIn log ++ sentIn rest :=
  List.filterMap_append

theorem heardBy_append (log rest : List (Record ε)) :
    heardBy subscriber (log ++ rest) = heardBy subscriber log ++ heardBy subscriber rest :=
  List.filterMap_append

theorem Record.Quiet.heardBy (quiet : record.Quiet subscriber) :
    heardBy subscriber [record] = [] := by
  cases record with
  | published item => rfl
  | gone => rfl
  | answered other demand answer =>
    cases answer with
    | none => rfl
    | some item => simp only [Bus.heardBy, List.filterMap_cons, List.filterMap_nil, if_neg quiet]

theorem Hears.length (hears : Hears room subscriber log places) :
    (heardBy subscriber log).length = places.length := by
  simpa using congrArg List.length hears.heard

theorem Missed.later (missed : Missed room subscriber log places place)
    (rest : List (Record ε)) : Missed room subscriber (log ++ rest) places place := by
  obtain ⟨early, start, behind, before⟩ := missed
  exact ⟨early, start.trans (List.prefix_append _ _), behind, before⟩

theorem Missed.append (missed : Missed room subscriber log places place)
    (enough : (heardBy subscriber log).length ≤ places.length) (more : List Nat) :
    Missed room subscriber log (places ++ more) place := by
  obtain ⟨early, start, behind, before⟩ := missed
  have short : (heardBy subscriber early).length ≤ places.length :=
    (start.filterMap _).length_le.trans enough
  exact ⟨early, start, behind, by rwa [List.take_append_of_le_length short]⟩

theorem hears_nil : Hears room subscriber ([] : List (Record ε)) [] where
  heard := rfl
  known := by simp
  inOrder := .nil
  missed := by simp
  refused := by simp

/-- One thing more becomes known, and perhaps one item more is heard. -/
theorem Hears.snoc (hears : Hears room subscriber log places) (record : Record ε)
    (more : List Nat)
    (heard : (heardBy subscriber [record]).map some = more.map ((sentIn log)[·]?))
    (single : more.Pairwise (· < ·)) (after : ∀ place ∈ places, ∀ later ∈ more, place < later)
    (missed : ∀ later ∈ more, ∀ place < later, place ∉ places →
      Missed room subscriber log places place)
    (refused : ∀ demand, record = .answered subscriber demand none →
      (∀ place < (sentIn log).length, (sentIn log).length ≤ place + room → place ∈ places) ∧
      (demand = .coming → .gone ∈ log)) :
    Hears room subscriber (log ++ [record]) (places ++ more) := by
  have inside : ∀ place ∈ places ++ more, place < (sentIn log).length := by
    intro place member
    rcases List.mem_append.1 member with member | member
    · refine hears.known log (List.prefix_refl log) place ?_
      rwa [hears.length, List.take_length]
    · have found : (sentIn log)[place]? ∈ (heardBy subscriber [record]).map some :=
        heard ▸ List.mem_map_of_mem member
      obtain ⟨item, -, same⟩ := List.mem_map.1 found
      exact (List.getElem?_eq_some_iff.1 same.symm).1
  have early_take : ∀ early, early <+: log →
      (places ++ more).take (heardBy subscriber early).length =
        places.take (heardBy subscriber early).length := fun early start =>
    List.take_append_of_le_length ((start.filterMap _).length_le.trans hears.length.le)
  refine ⟨?_, ?_, ?_, ?_, ?_⟩
  · rw [heardBy_append, List.map_append, hears.heard, heard, ← List.map_append]
    refine List.map_congr_left fun place member => ?_
    rw [sentIn_append, List.getElem?_append_left (inside place member)]
  · intro early start place member
    rcases List.prefix_concat_iff.1 start with rfl | start
    · rw [sentIn_append, List.length_append]
      exact Nat.lt_add_right _ (inside place (List.mem_of_mem_take member))
    · rw [early_take early start] at member
      exact hears.known early start place member
  · exact List.pairwise_append.2 ⟨hears.inOrder, single, after⟩
  · intro place later member before absent
    rw [List.mem_append, not_or] at absent
    refine Missed.later (Missed.append ?_ hears.length.le more) [record]
    rcases List.mem_append.1 member with member | member
    · exact hears.missed place later member before absent.1
    · exact missed later member place before absent.1
  · intro early demand start
    rcases List.prefix_concat_iff.1 start with whole | start
    · obtain ⟨rfl, same⟩ := List.append_inj' whole rfl
      obtain ⟨all, gone⟩ := refused demand (List.singleton_inj.1 same).symm
      refine ⟨fun place inside held => ?_, gone⟩
      rw [early_take early (List.prefix_refl _), hears.length, List.take_length]
      exact all place inside held
    · rw [early_take early ((List.prefix_append _ _).trans start)]
      exact hears.refused early demand start

/-- Records that are not about the subscriber change nothing for it. -/
theorem Hears.quiet (hears : Hears room subscriber log places)
    (quiet : ∀ record ∈ rest, record.Quiet subscriber) :
    Hears room subscriber (log ++ rest) places := by
  induction rest generalizing log with
  | nil => rwa [List.append_nil]
  | cons record rest ih =>
    obtain ⟨first, others⟩ := List.forall_mem_cons.1 quiet
    have next : Hears room subscriber (log ++ [record]) (places ++ []) := by
      refine hears.snoc record [] ?_ .nil (by simp) (by simp) ?_
      · rw [first.heardBy, List.map_nil, List.map_nil]
      · rintro demand rfl
        exact absurd rfl first
    rw [List.append_nil] at next
    simpa using ih next others

end Bus

end PlanarArm
