import PlanarArm.Proofs.Session.Calm
import PlanarArm.Proofs.Simulator.Settled

/-!
# When all answers are good

Suppose that nobody has asked for an abort and that every submission has been answered, and not with
an error. Then all of them were taken in, in order, and the arm has done what it was asked for, up
to the points of lines: a line is answered when it is replaced by its points, so the points of the
last one may still be on their way, and a point of any of them may have been out of reach
(`Course.Calm.carriedOut`).
-/

namespace PlanarArm

variable {α : Type}

/-- What was submitted has been carried out, as far as it has been answered for. -/
structure Course.CarriedOut (c : Course α) : Prop where
  /-- All submissions have been taken in, in order. -/
  accepted : c.journal.engine.accepted = c.submitted
  refused : c.journal.refusals = []
  unserved : submissions c.world.inbox.toList = []
  /-- It has been broadcast of each command itself that it ended well. -/
  settled : ∀ n < c.submitted.length, ∃ i e,
    (i, e) ∈ record c.submitted (reports c.journal.effects) ∧ (i.entry = n ∧ i.part = 0) ∧
      e.isOk = true
  /-- A failure is that of a point of a line, and is due to where the point is. -/
  failed : ∀ e ∈ reports c.journal.effects, ∀ error, e.result = .error error →
    ∃ i, (i, e) ∈ record c.submitted (reports c.journal.effects) ∧
      (i.part ≠ 0 ∧ ∃ target steps, i.origin.kind = .lineTo target steps) ∧
      ∃ p, error = .unreachable p ∨ error = .jointLimits p
  /-- What runs or waits is what is outstanding, and these are points of the last command, which
  then is a line. -/
  pending : c.world.session.simulator.pendingIds =
    (outstanding c.submitted (reports c.journal.effects)).map Issue.id
  points : ∀ i ∈ outstanding c.submitted (reports c.journal.effects),
    i.part ≠ 0 ∧ i.entry + 1 = c.submitted.length ∧
      ∃ target steps, i.origin.kind = .lineTo target steps

/-- Without lines, all reports are good, and nothing runs or waits any more. -/
theorem Course.CarriedOut.of_no_line {c : Course α} (done : c.CarriedOut)
    (plain : ∀ d ∈ c.submitted, ∀ target steps, d.kind ≠ .lineTo target steps) :
    (∀ e ∈ reports c.journal.effects, e.isOk = true) ∧
      c.world.session.simulator.pendingIds = [] := by
  have other {i : Issue α} (mem : i ∈ issues c.submitted (reports c.journal.effects)) :
      ¬ ∃ target steps, i.origin.kind = .lineTo target steps := by
    rintro ⟨target, steps, line⟩
    exact plain i.origin (List.mem_of_getElem? (getElem?_of_mem_issues mem)) target steps line
  constructor
  · intro e mem
    cases result : e.result with
    | ok completion => rw [CompletionEvent.isOk, result]
    | error error =>
      obtain ⟨i, told, ⟨-, line⟩, -⟩ := done.failed e mem error result
      exact absurd line (other (List.mem_of_mem_take (List.of_mem_zip told).1))
  · rw [done.pending, List.map_eq_nil_iff, List.eq_nil_iff_forall_not_mem]
    intro i left
    obtain ⟨-, -, line⟩ := done.points i left
    exact other (List.mem_of_mem_drop left) line

namespace Course.Calm

variable [Scalar α] {c : Course α}

/-- If all submissions have been answered without an error, none was refused, none is left in the
inbox, and their tickets are in order. -/
theorem tickets_eq (calm : c.Calm)
    (answered : ∀ ticket < c.submitted.length, ∃ completion,
      (ticket, .ok completion) ∈ answers c.journal.effects) :
    c.journal.refusals = [] ∧ submissions c.world.inbox.toList = [] ∧
      c.journal.tickets = List.range c.submitted.length := by
  have sound := calm.sound
  have tally := sound.quiet.tally
  have unrefused : c.journal.refusals = [] := by
    rw [List.eq_nil_iff_forall_not_mem]
    rintro ⟨ticket, e⟩ refused
    have place : ticket ∈ c.places :=
      List.mem_append_left _ (List.mem_append_left _ (List.mem_map_of_mem refused))
    obtain ⟨completion, good⟩ := answered ticket (sound.lt_of_mem_places place)
    cases (tally.answer_iff_of_refused sound.distinct refused _).1 good
  have taken {ticket : Nat} (known : ticket < c.submitted.length) : ticket ∈ c.journal.tickets := by
    obtain ⟨completion, good⟩ := answered ticket known
    have origin := tally.origin_of_answer good
    rw [unrefused] at origin
    exact origin
  obtain ⟨sorted, -, apart⟩ := List.pairwise_append.1 calm.ordered
  refine ⟨unrefused, ?_, ?_⟩
  · rw [List.eq_nil_iff_forall_not_mem]
    intro x left
    have mem : x.2 ∈ (submissions c.world.inbox.toList).map Prod.snd := List.mem_map_of_mem left
    have known := sound.lt_of_mem_places (List.mem_append_right _ mem)
    exact Nat.lt_irrefl _ (apart x.2 (taken known) x.2 mem)
  · have distinct : c.journal.tickets.Nodup := sorted.imp fun less => Nat.ne_of_lt less
    have same : c.journal.tickets.Perm (List.range c.submitted.length) := by
      rw [List.perm_ext_iff_of_nodup distinct List.nodup_range]
      intro ticket
      rw [List.mem_range]
      refine ⟨fun mem => sound.lt_of_mem_places ?_, taken⟩
      exact List.mem_append_left _ (List.mem_append_right _ mem)
    refine same.eq_of_pairwise (fun a b _ _ less more => ?_) sorted List.pairwise_lt_range
    exact absurd less (Nat.not_lt_of_lt more)

/-- All submissions have been taken in, in order. -/
theorem accepted_eq (calm : c.Calm)
    (answered : ∀ ticket < c.submitted.length, ∃ completion,
      (ticket, .ok completion) ∈ answers c.journal.effects) :
    c.journal.engine.accepted = c.submitted := by
  obtain ⟨-, -, tickets⟩ := calm.tickets_eq answered
  have taken := calm.sound.taken
  rw [tickets] at taken
  have length := congrArg List.length taken
  rw [List.length_map, List.length_map, List.length_range] at length
  refine List.ext_getElem? fun n => ?_
  by_cases known : n < c.submitted.length
  · refine calm.sound.submitted_eq ?_
    rw [tickets]
    exact List.getElem?_range known
  · rw [List.getElem?_eq_none (by omega), List.getElem?_eq_none (by omega)]

/-- What the report on a command itself says is what its submission was answered. -/
theorem answer_iff (calm : c.Calm)
    (answered : ∀ ticket < c.submitted.length, ∃ completion,
      (ticket, .ok completion) ∈ answers c.journal.effects)
    {n : Nat} (known : n < c.submitted.length) (result : CommandResult α) :
    (n, result) ∈ answers c.journal.effects ↔
      ∃ i e, (i, e) ∈ record c.submitted (reports c.journal.effects) ∧ i.entry = n ∧
        i.part = 0 ∧ e.result = result := by
  have place : c.journal.tickets[n]? = some n := by
    obtain ⟨-, -, tickets⟩ := calm.tickets_eq answered
    rw [tickets]
    exact List.getElem?_range known
  have own := calm.sound.quiet.tally.answer_iff_of_accepted calm.sound.distinct place result
  rwa [calm.accepted_eq answered] at own

/-- Each command itself has been reported to have ended well. -/
theorem settled (calm : c.Calm)
    (answered : ∀ ticket < c.submitted.length, ∃ completion,
      (ticket, .ok completion) ∈ answers c.journal.effects)
    (n : Nat) (known : n < c.submitted.length) :
    ∃ i e, (i, e) ∈ record c.submitted (reports c.journal.effects) ∧
      (i.entry = n ∧ i.part = 0) ∧ e.isOk = true := by
  obtain ⟨completion, good⟩ := answered n known
  obtain ⟨i, e, mem, entry, part, result⟩ := (calm.answer_iff answered known _).1 good
  refine ⟨i, e, mem, ⟨entry, part⟩, ?_⟩
  rw [CompletionEvent.isOk, result]

/-- The report of a failure is not about a command itself. -/
theorem part_of_failed (calm : c.Calm)
    (answered : ∀ ticket < c.submitted.length, ∃ completion,
      (ticket, .ok completion) ∈ answers c.journal.effects)
    {i : Issue α} {e : CompletionEvent α} {error : ArmError α}
    (told : (i, e) ∈ record c.submitted (reports c.journal.effects))
    (known : i.entry < c.submitted.length) (failed : e.result = .error error) : i.part ≠ 0 := by
  intro part
  obtain ⟨completion, good⟩ := answered i.entry known
  have bad := (calm.answer_iff answered known _).2 ⟨i, e, told, rfl, part, failed⟩
  have once := calm.sound.quiet.tally.answers_nodup calm.sound.distinct
  cases List.inj_on_of_nodup_map once good bad rfl

/-- A failure of a numbered command is due to where its point is, as it was not aborted. -/
theorem point_of_failed (calm : c.Calm) {i : Issue α} {e : CompletionEvent α} {error : ArmError α}
    (mem : e ∈ reports c.journal.effects) (same : i.id = e.id) (numbered : i.part ≠ 0)
    (failed : e.result = .error error) :
    ∃ p, error = .unreachable p ∨ error = .jointLimits p := by
  rw [calm.sound.quiet.reports_eq] at mem
  rcases calm.journal.excused.reported e mem error failed with stopped | ⟨d, inside, named⟩ | point
  · exact absurd (failed.trans (congrArg _ stopped)) (calm.journal.unaborted e mem)
  · -- The identifier of a point is not one that a sender may choose.
    have sub := Issue.isSub_of_part numbered
    rw [same, ← named, calm.journal.plain d inside] at sub
    cases sub
  · exact point

theorem carriedOut (calm : c.Calm)
    (answered : ∀ ticket < c.submitted.length, ∃ completion,
      (ticket, .ok completion) ∈ answers c.journal.effects) : c.CarriedOut := by
  obtain ⟨unrefused, unserved, -⟩ := calm.tickets_eq answered
  have accepted := calm.accepted_eq answered
  have quiet := calm.sound.quiet
  have logged := quiet.account.logged
  rw [← quiet.reports_eq, accepted] at logged
  refine ⟨accepted, unrefused, unserved, calm.settled answered, ?_, ?_, ?_⟩
  · intro e mem error failed
    obtain ⟨i, told⟩ := logged.mem_record mem
    have issue : i ∈ issues c.submitted (reports c.journal.effects) :=
      List.mem_of_mem_take (List.of_mem_zip told).1
    have known := (List.getElem?_eq_some_iff.1 (getElem?_of_mem_issues issue)).1
    have numbered := calm.part_of_failed answered told known failed
    exact ⟨i, told, ⟨numbered, line_of_part issue numbered⟩,
      calm.point_of_failed mem (logged.id_of_record told) numbered failed⟩
  · rw [← calm.sound.same, quiet.pendingIds_eq, ← quiet.reports_eq, accepted]
  · intro i left
    refine part_of_outstanding (fun n known => ?_) left
    obtain ⟨j, e, mem, ⟨entry, part⟩, -⟩ := calm.settled answered n known
    exact ⟨j, (List.of_mem_zip mem).1, entry, part⟩

end Course.Calm

end PlanarArm
