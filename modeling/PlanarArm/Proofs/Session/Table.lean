import Mathlib.Data.List.Nodup
import PlanarArm.Session.Correlation

/-!
# The table of those who wait

What the table does, said about its identifiers (`Correlation.keys`) as a list without repetitions:
taking out a slot is taking it out of the list (`Correlation.erase_of_perm`), and a command that is
not refused has an identifier that is new to it (`Correlation.new_of_not_refused`).
-/

namespace PlanarArm.Correlation

/-- The identifiers under which tickets wait. -/
def keys (t : Correlation) : List CommandId :=
  t.slots.map Prod.fst

theorem contains_iff {t : Correlation} {id : CommandId} : t.contains id = true ↔ id ∈ t.keys := by
  unfold contains find? keys
  rw [List.lookup_isSome_iff, List.mem_map]
  constructor
  · rintro ⟨slot, mem, same⟩
    exact ⟨slot, mem, (beq_iff_eq.1 same).symm⟩
  · rintro ⟨slot, mem, rfl⟩
    exact ⟨slot, mem, beq_self_eq_true _⟩

theorem find?_of_not_mem {t : Correlation} {id : CommandId} (absent : id ∉ t.keys) :
    t.find? id = none := by
  cases found : t.find? id with
  | none => rfl
  | some ticket =>
    have present : t.contains id = true := by rw [contains, found]; rfl
    exact absurd (contains_iff.1 present) absent

theorem mem_of_find? {t : Correlation} {id : CommandId} {ticket : Nat}
    (found : t.find? id = some ticket) : (id, ticket) ∈ t.slots := by
  obtain ⟨before, later, parted, -⟩ := List.lookup_eq_some_iff.1 found
  rw [parted]
  exact List.mem_append_right before List.mem_cons_self

theorem keys_erase_sublist (t : Correlation) (id : CommandId) : (t.erase id).keys.Sublist t.keys :=
  List.filter_sublist.map Prod.fst

theorem keys_erase (t : Correlation) (id : CommandId) :
    (t.erase id).keys = t.keys.filter (· ≠ id) := by
  rw [keys, keys, List.filter_map]
  rfl

theorem tickets_erase_sublist (t : Correlation) (id : CommandId) :
    (t.erase id).tickets.Sublist t.tickets :=
  List.filter_sublist.map Prod.snd

/-- Where no ticket waits twice, it is under one identifier only. -/
theorem id_eq_of_mem_slots {t : Correlation} {id other : CommandId} {ticket : Nat}
    (own : t.tickets.Nodup) (slot : (id, ticket) ∈ t.slots) (same : (other, ticket) ∈ t.slots) :
    id = other :=
  congrArg Prod.fst (List.inj_on_of_nodup_map own slot same rfl)

theorem ticket_not_mem_erase {t : Correlation} {id : CommandId} {ticket : Nat}
    (own : t.tickets.Nodup) (found : t.find? id = some ticket) :
    ticket ∉ (t.erase id).tickets := by
  intro mem
  obtain ⟨⟨other, _⟩, kept, rfl⟩ := List.mem_map.1 mem
  obtain ⟨slot, apart⟩ := List.mem_filter.1 kept
  exact of_decide_eq_true apart (id_eq_of_mem_slots own slot (mem_of_find? found))

/-- A ticket is found under its identifier, and only its slot is taken out. -/
theorem erase_of_perm {t : Correlation} {id : CommandId} {ticket : Nat}
    {rest : List (CommandId × Nat)} (keys : t.keys.Nodup)
    (slots : t.slots.Perm ((id, ticket) :: rest)) :
    t.find? id = some ticket ∧ (t.erase id).slots.Perm rest := by
  have distinct : (id :: rest.map Prod.fst).Nodup := (slots.map Prod.fst).nodup keys
  have absent : ∀ slot ∈ rest, slot.1 ≠ id := by
    rintro slot mem rfl
    exact (List.nodup_cons.1 distinct).1 (List.mem_map_of_mem mem)
  refine ⟨?_, ?_⟩
  · have present : t.contains id = true := by
      rw [contains_iff, Correlation.keys, (slots.map Prod.fst).mem_iff]
      exact List.mem_cons_self
    obtain ⟨other, found⟩ := Option.isSome_iff_exists.1 present
    rcases List.mem_cons.1 (slots.mem_iff.1 (mem_of_find? found)) with same | inside
    · cases same
      exact found
    · exact absurd rfl (absent _ inside)
  · have kept : rest.filter (·.1 ≠ id) = rest :=
      List.filter_eq_self.2 fun slot mem => decide_eq_true (absent slot mem)
    have filtered := slots.filter fun slot => decide (slot.1 ≠ id)
    rw [List.filter_cons_of_neg (by simp), kept] at filtered
    exact filtered

theorem find?_insert (t : Correlation) (id : CommandId) (ticket : Nat) :
    (t.insert id ticket).find? id = some ticket := by
  simp [insert, find?]

theorem erase_of_not_mem {t : Correlation} {id : CommandId} (absent : id ∉ t.keys) :
    t.erase id = t := by
  have others : ∀ slot ∈ t.slots, decide (slot.1 ≠ id) = true := by
    intro slot mem
    refine decide_eq_true fun same => absent ?_
    rw [← same]
    exact List.mem_map_of_mem mem
  rw [erase, List.filter_eq_self.2 others]

/-- Nobody else is disturbed by a ticket that comes and goes. -/
theorem erase_insert {t : Correlation} {id : CommandId} (absent : id ∉ t.keys) (ticket : Nat) :
    (t.insert id ticket).erase id = t := by
  rw [insert, erase, List.filter_cons_of_neg (by simp)]
  exact erase_of_not_mem absent

/-- A command that is not refused has an identifier of the senders' form, under which nobody
waits. -/
theorem new_of_not_refused {α : Type} {t : Correlation} {id : CommandId}
    (allowed : t.refusal? (α := α) id = none) : id.isSub = false ∧ id ∉ t.keys := by
  unfold refusal? at allowed
  split at allowed
  · cases allowed
  · next plain =>
    split at allowed
    · cases allowed
    · next absent =>
      exact ⟨Bool.eq_false_iff.2 plain, fun mem => absent (contains_iff.2 mem)⟩

theorem invalidArgument_of_refused {α : Type} {t : Correlation} {id : CommandId} {e : ArmError α}
    (refused : t.refusal? id = some e) : ∃ reason, e = .invalidArgument reason := by
  unfold refusal? at refused
  split at refused
  · cases refused
    exact ⟨_, rfl⟩
  · split at refused
    · cases refused
      exact ⟨_, rfl⟩
    · cases refused

theorem refusal?_isSome_iff {α : Type} {t : Correlation} {id : CommandId} :
    (t.refusal? (α := α) id).isSome = true ↔ id.isSub = true ∨ id ∈ t.keys := by
  rw [← contains_iff]
  unfold refusal?
  cases id.isSub <;> cases t.contains id <;> simp

end PlanarArm.Correlation
