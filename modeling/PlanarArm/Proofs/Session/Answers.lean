import PlanarArm.Proofs.Session.Tally

/-!
# Answers, ticket by ticket

What the tally of a session says about a single ticket, as long as no two submissions have the same
one: it is answered at most once (`Tally.answers_nodup`), with the refusal if its submission was
refused (`Tally.answer_iff_of_refused`), and with what was reported on that very command if it was
taken in (`Tally.answer_iff_of_accepted`).
-/

namespace PlanarArm

variable {α : Type} {accepted : List (Command α)} {events : List (CompletionEvent α)}

/-! ## Each accepted command is settled at most once -/

theorem map_fst_settled (accepted : List (Command α)) (events : List (CompletionEvent α)) :
    (settled accepted events).map Prod.fst = (reported accepted events).filter Issue.isOwn := by
  rw [← map_fst_record, List.filter_map]
  rfl

/-- The reports settle accepted commands in order, none of them twice. -/
theorem entries_settled (accepted : List (Command α)) (events : List (CompletionEvent α)) :
    ((settled accepted events).map fun x => x.1.entry).Sublist (List.range accepted.length) := by
  have entries : (settled accepted events).map (fun x => x.1.entry) =
      ((reported accepted events).filter Issue.isOwn).map Issue.entry := by
    rw [← map_fst_settled, List.map_map]
    rfl
  rw [entries, ← entries_own_issues accepted events]
  exact ((List.take_sublist _ _).filter _).map _

/-! ## Tickets -/

theorem getD_of_getElem? {tickets : List Nat} {n ticket : Nat}
    (found : tickets[n]? = some ticket) :
    tickets.getD n 0 = ticket := by
  rw [List.getD_eq_getElem?_getD, found, Option.getD_some]

theorem map_getD_range (tickets : List Nat) :
    (List.range tickets.length).map (fun n => tickets.getD n 0) = tickets := by
  refine List.ext_getElem ?_ fun n first second => ?_
  · rw [List.length_map, List.length_range]
  · rw [List.getElem_map, List.getElem_range, List.getD_eq_getElem _ _ second]

namespace Tally

variable {tickets : List Nat} {refusals : List (Nat × ArmError α)} {table : Correlation}
  {effects : List (Effect α)}

/-- The tickets that have been answered are those of the refusals and some of the accepted
commands. -/
theorem answered_tickets (tally : Tally accepted tickets refusals table effects) :
    ∃ some : List Nat, some.Sublist tickets ∧
      ((answers effects).map Prod.fst).Perm (refusals.map Prod.fst ++ some) := by
  refine ⟨(settled accepted (reports effects)).map fun x => tickets.getD x.1.entry 0, ?_, ?_⟩
  · have sublist := (entries_settled accepted (reports effects)).map fun n => tickets.getD n 0
    rw [← tally.length_eq, map_getD_range, List.map_map] at sublist
    exact sublist
  · have answered := tally.answered.map Prod.fst
    rw [List.map_append, List.map_map, List.map_map] at answered
    exact answered

theorem answers_nodup (tally : Tally accepted tickets refusals table effects)
    (distinct : (refusals.map Prod.fst ++ tickets).Nodup) :
    ((answers effects).map Prod.fst).Nodup := by
  obtain ⟨some, sublist, answered⟩ := tally.answered_tickets
  exact answered.symm.nodup (distinct.sublist (sublist.append_left _))

theorem mem_answers (tally : Tally accepted tickets refusals table effects) {ticket : Nat}
    {result : CommandResult α} :
    (ticket, result) ∈ answers effects ↔
      (∃ e, (ticket, e) ∈ refusals ∧ result = .error e) ∨
      ∃ i e, (i, e) ∈ settled accepted (reports effects) ∧ tickets.getD i.entry 0 = ticket ∧
        e.result = result := by
  rw [tally.answered.mem_iff, List.mem_append, List.mem_map, List.mem_map]
  constructor
  · rintro (⟨x, mem, same⟩ | ⟨⟨i, e⟩, mem, same⟩)
    · cases same
      exact .inl ⟨x.2, mem, rfl⟩
    · cases same
      exact .inr ⟨i, e, mem, rfl, rfl⟩
  · rintro (⟨e, mem, rfl⟩ | ⟨i, e, mem, rfl, rfl⟩)
    · exact .inl ⟨(ticket, e), mem, rfl⟩
    · exact .inr ⟨(i, e), mem, rfl⟩

theorem mem_tickets_of_settled (tally : Tally accepted tickets refusals table effects)
    {i : Issue α} {e : CompletionEvent α} (mem : (i, e) ∈ settled accepted (reports effects)) :
    tickets[i.entry]? = some (tickets.getD i.entry 0) := by
  have known : i.entry < tickets.length := tally.length_eq ▸ entry_lt_of_settled mem
  rw [List.getD_eq_getElem?_getD, List.getElem?_eq_getElem known, Option.getD_some]

theorem origin_of_answer (tally : Tally accepted tickets refusals table effects) {ticket : Nat}
    {result : CommandResult α} (mem : (ticket, result) ∈ answers effects) :
    ticket ∈ refusals.map Prod.fst ++ tickets := by
  rw [List.mem_append]
  rcases tally.mem_answers.1 mem with ⟨e, refused, -⟩ | ⟨i, e, about, rfl, -⟩
  · exact .inl (List.mem_map_of_mem refused)
  · exact .inr (List.mem_of_getElem? (tally.mem_tickets_of_settled about))

/-- The answer of a refused submission is the refusal. -/
theorem answer_iff_of_refused (tally : Tally accepted tickets refusals table effects)
    (distinct : (refusals.map Prod.fst ++ tickets).Nodup) {ticket : Nat} {e : ArmError α}
    (refused : (ticket, e) ∈ refusals) (result : CommandResult α) :
    (ticket, result) ∈ answers effects ↔ result = .error e := by
  have own : (ticket, .error e) ∈ answers effects := tally.mem_answers.2 (.inl ⟨e, refused, rfl⟩)
  constructor
  · intro mem
    exact congrArg Prod.snd
      (List.inj_on_of_nodup_map (tally.answers_nodup distinct) mem own rfl)
  · rintro rfl
    exact own

/-- The answer of an accepted submission is the result in the report on that very command. -/
theorem answer_iff_of_accepted (tally : Tally accepted tickets refusals table effects)
    (distinct : (refusals.map Prod.fst ++ tickets).Nodup) {n ticket : Nat}
    (found : tickets[n]? = some ticket) (result : CommandResult α) :
    (ticket, result) ∈ answers effects ↔
      ∃ i e, (i, e) ∈ record accepted (reports effects) ∧ i.entry = n ∧ i.part = 0 ∧
        e.result = result := by
  obtain ⟨-, once, apart⟩ := List.nodup_append.1 distinct
  rw [tally.mem_answers]
  constructor
  · rintro (⟨e, refused, -⟩ | ⟨i, e, about, same, rfl⟩)
    · exact absurd rfl (apart _ (List.mem_map_of_mem refused) _ (List.mem_of_getElem? found))
    · obtain ⟨mem, own⟩ := List.mem_filter.1 about
      have place := tally.mem_tickets_of_settled about
      rw [same] at place
      have known := (List.getElem?_eq_some_iff.1 place).1
      have entry : i.entry = n := (List.getElem?_inj known once).1 (place.trans found.symm)
      exact ⟨i, e, mem, entry, Issue.isOwn_iff.1 own, rfl⟩
  · rintro ⟨i, e, mem, rfl, own, rfl⟩
    have about : (i, e) ∈ settled accepted (reports effects) :=
      List.mem_filter.2 ⟨mem, Issue.isOwn_iff.2 own⟩
    exact .inr ⟨i, e, about, getD_of_getElem? found, rfl⟩

end Tally

end PlanarArm
