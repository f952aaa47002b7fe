import Mathlib.Data.List.Induction
import PlanarArm.Proofs.Session.Journal
import PlanarArm.Session.Bench

/-!
# What holders of tickets read

The receipts of a world follow the answers that its session gives (`Receipts.Follows`): a ticket
that waits has no answer, and an answer that stands in a receipt has been given. Acting on the world
keeps it so (`Receipts.Follows.answerAll`), and so does whatever a holder does. `Receipts.reading?`
is what the holder of a ticket reads: its answer (`Receipts.Follows.reading?_of_mem`), or nothing
until nobody is there to answer it (`Receipts.Follows.reading?_of_not_mem`).
-/

namespace PlanarArm

variable {α : Type}

namespace Receipts

/-- What the holder of a ticket reads: nothing while it waits, its answer if it has one, and that
nobody is there otherwise. -/
def reading? (r : Receipts α) (ticket : Nat) : Option (CommandResult α) :=
  match r.cells[ticket]? with
  | some .waiting => none
  | some (.answered result) => some result
  | _ => some (.error sessionGone)

/-- Whether the holder of a ticket still has it, neither looked at nor thrown away. -/
def IsHeld (r : Receipts α) (ticket : Nat) : Prop :=
  ∃ receipt, r.cells[ticket]? = some receipt ∧ receipt ≠ .taken ∧ receipt ≠ .dropped

/-- What the holder reads is what a bench gives out. -/
theorem answer?_eq (b : Bench α) (ticket : Nat) :
    b.answer? ticket = b.world.receipts.reading? ticket := rfl

theorem reading?_eq_none {r : Receipts α} {ticket : Nat} :
    r.reading? ticket = none ↔ r.cells[ticket]? = some .waiting := by
  unfold reading?
  split
  · next found => exact iff_of_true rfl found
  · next found => exact iff_of_false nofun (by rw [found]; exact nofun)
  · next other _ => exact iff_of_false nofun fun found => other found

/-- Whoever waits when nobody is left to answer reads so. -/
theorem reading?_abandon {r : Receipts α} {ticket : Nat} (waits : r.reading? ticket = none) :
    r.abandon.reading? ticket = some (.error sessionGone) := by
  have lost : r.abandon.cells[ticket]? = some .lost := by
    rw [abandon, Array.getElem?_map, reading?_eq_none.1 waits]
    rfl
  rw [reading?, lost]

theorem isHeld_of_waiting {r : Receipts α} {ticket : Nat}
    (waits : r.cells[ticket]? = some .waiting) : r.IsHeld ticket :=
  ⟨.waiting, waits, nofun, nofun⟩

/-- The receipts after more answers. -/
def answerAll (r : Receipts α) (given : List (Nat × CommandResult α)) : Receipts α :=
  given.foldl (fun r x => r.answer x.1 x.2) r

theorem size_answer (r : Receipts α) (ticket : Nat) (result : CommandResult α) :
    (r.answer ticket result).cells.size = r.cells.size := by
  unfold answer
  split
  · exact Array.size_setIfInBounds
  · rfl

theorem size_answerAll (r : Receipts α) (given : List (Nat × CommandResult α)) :
    (r.answerAll given).cells.size = r.cells.size := by
  induction given generalizing r with
  | nil => rfl
  | cons x rest ih => exact (ih _).trans (r.size_answer x.1 x.2)

/-- The receipts agree with the answers that have been given. -/
structure Follows (r : Receipts α) (given : List (Nat × CommandResult α)) : Prop where
  waiting : ∀ ticket, r.cells[ticket]? = some .waiting → ∀ result, (ticket, result) ∉ given
  answered : ∀ ticket result, r.cells[ticket]? = some (.answered result) →
    (ticket, result) ∈ given
  lost : ∀ ticket, r.cells[ticket]? = some .lost → ∀ result, (ticket, result) ∉ given

theorem isWaiting_iff {r : Receipts α} {ticket : Nat} :
    r.isWaiting ticket = true ↔ r.cells[ticket]? = some .waiting := by
  unfold isWaiting
  split
  · next found => exact iff_of_true rfl found
  · next other => exact iff_of_false Bool.false_ne_true fun found => other found

/-- No ticket has this receipt. -/
def Lacks (r : Receipts α) (receipt : Receipt α) : Prop :=
  ∀ ticket : Nat, r.cells[ticket]? ≠ some receipt

theorem answer_of_not_waiting {r : Receipts α} {ticket : Nat}
    (closed : r.cells[ticket]? ≠ some .waiting) (result : CommandResult α) :
    r.answer ticket result = r :=
  if_neg fun waits => closed (isWaiting_iff.1 waits)

theorem getElem?_set {cells : Array (Receipt α)} {ticket other : Nat} {receipt : Receipt α}
    (known : ticket < cells.size) :
    (cells.setIfInBounds ticket receipt)[other]? =
      if ticket = other then some receipt else cells[other]? := by
  rw [Array.getElem?_setIfInBounds, if_pos known]

theorem lt_of_getElem? {cells : Array (Receipt α)} {ticket : Nat} {receipt : Receipt α}
    (found : cells[ticket]? = some receipt) : ticket < cells.size :=
  (Array.getElem?_eq_some_iff.1 found).1

theorem getElem?_answer {r : Receipts α} {ticket : Nat} (waits : r.cells[ticket]? = some .waiting)
    (result : CommandResult α) (other : Nat) :
    (r.answer ticket result).cells[other]? =
      if ticket = other then some (.answered result) else r.cells[other]? := by
  rw [answer, if_pos (isWaiting_iff.2 waits), getElem?_set (lt_of_getElem? waits)]

theorem getElem?_answer_eq (r : Receipts α) (ticket : Nat) (result : CommandResult α)
    (other : Nat) :
    (r.answer ticket result).cells[other]? =
      if other = ticket ∧ r.isWaiting ticket then some (.answered result)
      else r.cells[other]? := by
  by_cases waits : r.cells[ticket]? = some .waiting
  · rw [getElem?_answer waits, isWaiting_iff.2 waits]
    simp only [eq_comm, and_true]
  · rw [answer_of_not_waiting waits, if_neg]
    rintro ⟨-, waiting⟩
    exact waits (isWaiting_iff.1 waiting)

/-- An answer is there for whoever holds the ticket, and one under another ticket leaves it alone. -/
theorem IsHeld.answerAll {r : Receipts α} {ticket : Nat} (held : r.IsHeld ticket)
    (given : List (Nat × CommandResult α)) : (r.answerAll given).IsHeld ticket := by
  induction given generalizing r with
  | nil => exact held
  | cons x rest ih =>
    refine ih ?_
    change (r.answer x.1 x.2).IsHeld ticket
    by_cases waits : r.cells[x.1]? = some .waiting
    · unfold IsHeld
      rw [getElem?_answer waits]
      split
      · exact ⟨_, rfl, nofun, nofun⟩
      · exact held
    · rw [answer_of_not_waiting waits]
      exact held

theorem IsHeld.abandon {r : Receipts α} {ticket : Nat} (held : r.IsHeld ticket) :
    r.abandon.IsHeld ticket := by
  obtain ⟨receipt, found, fresh, kept⟩ := held
  have cell : r.abandon.cells[ticket]? = r.cells[ticket]?.map _ := Array.getElem?_map
  unfold IsHeld
  rw [cell, found]
  cases receipt with
  | waiting => exact ⟨.lost, rfl, nofun, nofun⟩
  | answered result => exact ⟨.answered result, rfl, nofun, nofun⟩
  | taken => exact absurd rfl fresh
  | dropped => exact absurd rfl kept
  | lost => exact ⟨.lost, rfl, nofun, nofun⟩

/-- Once it is known what has come of a ticket, no answer changes that. -/
theorem getElem?_answerAll_of_closed {r : Receipts α} {ticket : Nat} {receipt : Receipt α}
    (found : r.cells[ticket]? = some receipt) (closed : receipt ≠ .waiting)
    (given : List (Nat × CommandResult α)) :
    (r.answerAll given).cells[ticket]? = some receipt := by
  induction given generalizing r with
  | nil => exact found
  | cons x rest ih =>
    refine ih (r := r.answer x.1 x.2) ?_
    rw [getElem?_answer_eq, if_neg, found]
    rintro ⟨rfl, waits⟩
    exact closed (Option.some.inj (found.symm.trans (isWaiting_iff.1 waits)))

/-- Where all get the same answer, everybody who waits and is among them has it. -/
theorem getElem?_answerAll_of_mem {r : Receipts α} {ticket : Nat} {tickets : List Nat}
    (waits : r.cells[ticket]? = some .waiting) (mem : ticket ∈ tickets)
    (result : CommandResult α) :
    (r.answerAll (tickets.map (·, result))).cells[ticket]? = some (.answered result) := by
  induction tickets generalizing r with
  | nil => cases mem
  | cons first rest ih =>
    by_cases same : first = ticket
    · subst same
      have answered : (r.answer first result).cells[first]? = some (.answered result) := by
        rw [getElem?_answer waits, if_pos rfl]
      exact getElem?_answerAll_of_closed answered nofun _
    · have later : ticket ∈ rest := (List.mem_cons.1 mem).resolve_left (Ne.symm same)
      refine ih (r := r.answer first result) ?_ later
      rw [getElem?_answer_eq, if_neg (fun both => same both.1.symm), waits]

theorem getElem?_drop {r : Receipts α} {other : Nat} {receipt : Receipt α}
    (found : r.cells[other]? = some receipt) (ticket : Nat) :
    (r.drop ticket).cells[other]? = some (if ticket = other then .dropped else receipt) := by
  rw [drop, Array.getElem?_setIfInBounds]
  split
  · next same =>
    subst same
    rw [if_pos (lt_of_getElem? found)]
  · exact found

theorem getElem?_issue (r : Receipts α) (other : Nat) :
    r.issue.2.cells[other]? = if other = r.cells.size then some .waiting else r.cells[other]? :=
  Array.getElem?_push

/-- A receipt that its holder has done with was another one before. -/
theorem getElem?_of_close {r : Receipts α} {ticket other : Nat} {done receipt : Receipt α}
    (kept : receipt ≠ done)
    (found : (r.cells.setIfInBounds ticket done)[other]? = some receipt) :
    r.cells[other]? = some receipt := by
  rw [Array.getElem?_setIfInBounds] at found
  split at found
  · split at found
    · cases found
      exact absurd rfl kept
    · cases found
  · exact found

theorem Lacks.issue {r : Receipts α} {receipt : Receipt α} (lacks : r.Lacks receipt)
    (other : receipt ≠ .waiting) : r.issue.2.Lacks receipt := by
  intro ticket found
  rw [getElem?_issue] at found
  split at found
  · cases found
    exact other rfl
  · exact lacks ticket found

theorem Lacks.close {r : Receipts α} {receipt done : Receipt α} (lacks : r.Lacks receipt)
    (kept : receipt ≠ done) (ticket : Nat) :
    Lacks ⟨r.cells.setIfInBounds ticket done⟩ receipt :=
  fun other found => lacks other (getElem?_of_close kept found)

namespace Follows

variable {r : Receipts α} {given : List (Nat × CommandResult α)}

theorem answer (follows : r.Follows given) (going : r.Lacks .lost) (ticket : Nat)
    (result : CommandResult α) :
    (r.answer ticket result).Follows (given ++ [(ticket, result)]) ∧
      (r.answer ticket result).Lacks .lost := by
  by_cases waits : r.cells[ticket]? = some .waiting
  · have cells := getElem?_answer waits result
    have elsewhere {other : Nat} (apart : ticket ≠ other)
        (none : ∀ result, (other, result) ∉ given) (later : CommandResult α) :
        (other, later) ∉ given ++ [(ticket, result)] := by
      intro mem
      rcases List.mem_append.1 mem with old | new
      · exact none later old
      · exact apart (congrArg Prod.fst (List.mem_singleton.1 new)).symm
    refine ⟨⟨fun other found => ?_, fun other later found => ?_, fun other found => ?_⟩,
      fun other found => ?_⟩
    · rw [cells] at found
      split at found
      · cases found
      · next apart => exact elsewhere apart (follows.waiting other found)
    · rw [cells] at found
      split at found
      · next same =>
        cases found
        subst same
        exact List.mem_append_right given List.mem_cons_self
      · exact List.mem_append_left _ (follows.answered other later found)
    · rw [cells] at found
      split at found
      · cases found
      · exact absurd found (going other)
    · rw [cells] at found
      split at found
      · cases found
      · exact going other found
  · rw [answer_of_not_waiting waits]
    refine ⟨⟨fun other found later mem => ?_, fun other later found => ?_, fun other found => ?_⟩,
      going⟩
    · rcases List.mem_append.1 mem with old | new
      · exact follows.waiting other found later old
      · cases List.mem_singleton.1 new
        exact waits found
    · exact List.mem_append_left _ (follows.answered other later found)
    · exact absurd found (going other)

theorem answerAll (follows : r.Follows given) (going : r.Lacks .lost)
    (new : List (Nat × CommandResult α)) :
    (r.answerAll new).Follows (given ++ new) ∧ (r.answerAll new).Lacks .lost := by
  induction new generalizing r given with
  | nil =>
    rw [List.append_nil]
    exact ⟨follows, going⟩
  | cons x rest ih =>
    obtain ⟨further, still⟩ := follows.answer going x.1 x.2
    have later := ih further still
    rw [List.append_assoc] at later
    exact later

theorem issue (follows : r.Follows given) (fresh : ∀ result, (r.cells.size, result) ∉ given) :
    r.issue.2.Follows given := by
  refine ⟨fun other found => ?_, fun other later found => ?_, fun other found => ?_⟩
  · rw [getElem?_issue] at found
    split at found
    · next same =>
      rw [same]
      exact fresh
    · exact follows.waiting other found
  · rw [getElem?_issue] at found
    split at found
    · cases found
    · exact follows.answered other later found
  · rw [getElem?_issue] at found
    split at found
    · cases found
    · exact follows.lost other found

theorem close (follows : r.Follows given) (ticket : Nat) {done : Receipt α}
    (ended : done = .taken ∨ done = .dropped) :
    Follows ⟨r.cells.setIfInBounds ticket done⟩ given := by
  refine ⟨fun other found => ?_, fun other later found => ?_, fun other found => ?_⟩
  · refine follows.waiting other (getElem?_of_close ?_ found)
    rcases ended with rfl | rfl <;> exact nofun
  · refine follows.answered other later (getElem?_of_close ?_ found)
    rcases ended with rfl | rfl <;> exact nofun
  · refine follows.lost other (getElem?_of_close ?_ found)
    rcases ended with rfl | rfl <;> exact nofun

theorem abandon (follows : r.Follows given) :
    r.abandon.Follows given ∧ r.abandon.Lacks .waiting := by
  have cells (other : Nat) : r.abandon.cells[other]? = r.cells[other]?.map _ := Array.getElem?_map
  refine ⟨⟨fun other found => ?_, fun other later found => ?_, fun other found => ?_⟩,
    fun other found => ?_⟩
  · rw [cells, Option.map_eq_some_iff] at found
    obtain ⟨receipt, -, same⟩ := found
    cases receipt <;> cases same
  · rw [cells, Option.map_eq_some_iff] at found
    obtain ⟨receipt, before, same⟩ := found
    cases receipt <;> cases same
    exact follows.answered other later before
  · rw [cells, Option.map_eq_some_iff] at found
    obtain ⟨receipt, before, same⟩ := found
    cases receipt <;> cases same
    · exact follows.waiting other before
    · exact follows.lost other before
  · rw [cells, Option.map_eq_some_iff] at found
    obtain ⟨receipt, -, same⟩ := found
    cases receipt <;> cases same

theorem reading?_of_mem (follows : r.Follows given) (once : (given.map Prod.fst).Nodup)
    {ticket : Nat} (held : r.IsHeld ticket) {result : CommandResult α}
    (mem : (ticket, result) ∈ given) : r.reading? ticket = some result := by
  obtain ⟨receipt, found, fresh, kept⟩ := held
  unfold reading?
  cases receipt with
  | waiting => exact absurd mem (follows.waiting ticket found result)
  | answered other =>
    have same := List.inj_on_of_nodup_map once (follows.answered ticket other found) mem rfl
    cases same
    rw [found]
  | taken => exact absurd rfl fresh
  | dropped => exact absurd rfl kept
  | lost => exact absurd mem (follows.lost ticket found result)

/-- The holder of a ticket without an answer waits, or else reads that nobody is there. -/
theorem reading?_of_not_mem (follows : r.Follows given) {ticket : Nat} (held : r.IsHeld ticket)
    (none : ∀ result, (ticket, result) ∉ given) :
    r.cells[ticket]? = some .waiting ∧ r.reading? ticket = .none ∨
      r.cells[ticket]? = some .lost ∧ r.reading? ticket = some (.error sessionGone) := by
  obtain ⟨receipt, found, fresh, kept⟩ := held
  unfold reading?
  cases receipt with
  | waiting =>
    rw [found]
    exact .inl ⟨rfl, rfl⟩
  | answered other => exact absurd (follows.answered ticket other found) (none other)
  | taken => exact absurd rfl fresh
  | dropped => exact absurd rfl kept
  | lost =>
    rw [found]
    exact .inr ⟨rfl, rfl⟩

end Follows

end Receipts

end PlanarArm
