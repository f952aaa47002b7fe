import PlanarArm.Proofs.Simulator.Outstanding

/-!
# What is left when all accepted commands have been reported on

The issues of accepted commands come in the order of the commands (`pairwise_entry_issues`). So when
each accepted command itself has been reported on, all that can be outstanding is numbered commands
of the last one, which then is a line (`part_of_outstanding`).
-/

namespace PlanarArm

variable {α : Type} {accepted : List (Command α)} {events : List (CompletionEvent α)} {i : Issue α}

/-! ## Issues in order -/

theorem Command.entry_of_mem_issues {c : Command α} {entry : Nat} {expanded : Bool}
    (mem : i ∈ c.issues entry expanded) : i.entry = entry ∧ i.origin = c := by
  rw [Command.issues, List.mem_cons] at mem
  rcases mem with rfl | mem
  · exact ⟨rfl, rfl⟩
  · cases expanded with
    | false => cases mem
    | true =>
      obtain ⟨k, -, rfl⟩ := List.mem_map.1 mem
      exact ⟨rfl, rfl⟩

theorem getElem?_of_mem_issuesFrom {entry : Nat} (mem : i ∈ issuesFrom entry accepted events) :
    ∃ n, i.entry = entry + n ∧ accepted[n]? = some i.origin := by
  induction accepted generalizing entry events with
  | nil => cases mem
  | cons c later ih =>
    rw [issuesFrom, List.mem_append] at mem
    rcases mem with own | behind
    · obtain ⟨same, origin⟩ := Command.entry_of_mem_issues own
      exact ⟨0, same, congrArg some origin.symm⟩
    · obtain ⟨n, place, found⟩ := ih behind
      refine ⟨n + 1, ?_, found⟩
      omega

theorem getElem?_of_mem_issues (mem : i ∈ issues accepted events) :
    accepted[i.entry]? = some i.origin := by
  obtain ⟨n, place, found⟩ := getElem?_of_mem_issuesFrom mem
  rw [place, Nat.zero_add]
  exact found

theorem pairwise_entry_issuesFrom (entry : Nat) (accepted : List (Command α))
    (events : List (CompletionEvent α)) :
    (issuesFrom entry accepted events).Pairwise fun i j => i.entry ≤ j.entry := by
  induction accepted generalizing entry events with
  | nil => exact .nil
  | cons c later ih =>
    rw [issuesFrom, List.pairwise_append]
    refine ⟨?_, ih _ _, fun i own j behind => ?_⟩
    · refine List.pairwise_of_forall_mem_list fun i first j second => ?_
      have own := (Command.entry_of_mem_issues first).1
      have other := (Command.entry_of_mem_issues second).1
      omega
    · obtain ⟨n, place, -⟩ := getElem?_of_mem_issuesFrom behind
      have same := (Command.entry_of_mem_issues own).1
      omega

/-- The issues come in the order of the commands that they belong to. -/
theorem pairwise_entry_issues (accepted : List (Command α)) (events : List (CompletionEvent α)) :
    (issues accepted events).Pairwise fun i j => i.entry ≤ j.entry :=
  pairwise_entry_issuesFrom 0 accepted events

/-- Only a line has numbered issues. -/
theorem line_of_part {entry : Nat} (mem : i ∈ issuesFrom entry accepted events)
    (numbered : i.part ≠ 0) : ∃ target steps, i.origin.kind = .lineTo target steps := by
  induction accepted generalizing entry events with
  | nil => cases mem
  | cons c later ih =>
    rw [issuesFrom, List.mem_append] at mem
    rcases mem with own | behind
    · rw [Command.issues, List.mem_cons] at own
      rcases own with rfl | part
      · exact absurd rfl numbered
      · split at part
        · obtain ⟨k, inside, rfl⟩ := List.mem_map.1 part
          unfold Command.partCount at inside
          split at inside
          · next target steps kind => exact ⟨target, steps, kind⟩
          · cases inside
        · cases part
    · exact ih behind

/-! ## What is outstanding -/

theorem reported_append_outstanding (accepted : List (Command α))
    (events : List (CompletionEvent α)) :
    reported accepted events ++ outstanding accepted events = issues accepted events :=
  List.take_append_drop _ _

/-- Each report is about an issue. -/
theorem Logged.mem_record (logged : Logged accepted events) {e : CompletionEvent α}
    (mem : e ∈ events) : ∃ i, (i, e) ∈ record accepted events := by
  have told : (record accepted events).map Prod.snd = events :=
    List.map_snd_zip (Nat.le_of_eq (List.length_take_of_le logged.length_le).symm)
  rw [← told] at mem
  obtain ⟨⟨i, _⟩, found, rfl⟩ := List.mem_map.1 mem
  exact ⟨i, found⟩

/-- An accepted command that has been reported on is not outstanding itself. -/
theorem part_of_reported {j : Issue α} (told : j ∈ reported accepted events) (own : j.part = 0)
    (left : i ∈ outstanding accepted events) (same : i.entry = j.entry) : i.part ≠ 0 := by
  intro again
  have once : (((issues accepted events).filter Issue.isOwn).map Issue.entry).Nodup := by
    rw [entries_own_issues]
    exact List.nodup_range
  rw [← reported_append_outstanding, List.filter_append, List.map_append, List.nodup_append] at once
  obtain ⟨-, -, apart⟩ := once
  refine apart j.entry ?_ i.entry ?_ same.symm
  · exact List.mem_map_of_mem (List.mem_filter.2 ⟨told, Issue.isOwn_iff.2 own⟩)
  · exact List.mem_map_of_mem (List.mem_filter.2 ⟨left, Issue.isOwn_iff.2 again⟩)

/-- Once all accepted commands have been reported on, only numbered commands of the last one are
outstanding, and that is a line. -/
theorem part_of_outstanding
    (settled : ∀ n < accepted.length, ∃ j ∈ reported accepted events, j.entry = n ∧ j.part = 0)
    (left : i ∈ outstanding accepted events) :
    i.part ≠ 0 ∧ i.entry + 1 = accepted.length ∧
      ∃ target steps, i.origin.kind = .lineTo target steps := by
  have mem : i ∈ issues accepted events := List.mem_of_mem_drop left
  have known : i.entry < accepted.length :=
    (List.getElem?_eq_some_iff.1 (getElem?_of_mem_issues mem)).1
  have numbered : i.part ≠ 0 := by
    obtain ⟨j, told, same, own⟩ := settled i.entry known
    exact part_of_reported told own left same.symm
  refine ⟨numbered, ?_, line_of_part mem numbered⟩
  obtain ⟨last, told, same, -⟩ := settled (accepted.length - 1) (by omega)
  have order := pairwise_entry_issues accepted events
  rw [← reported_append_outstanding, List.pairwise_append] at order
  have later : last.entry ≤ i.entry := order.2.2 last told i left
  omega

end PlanarArm
