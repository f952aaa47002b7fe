import PlanarArm.Proofs.Simulator.Order

/-!
# Why a command fails

Apart from aborts there are two ways in which a command can be reported to have failed. It was
accepted itself, or it is one of those that replaced a line. Those only bring the hand to a point,
so all that can be wrong with them is the point: it is out of reach, or out of the joint ranges.

* `History.Excused.step`, `History.Excused.after`: a step and an operation keep it so.
-/

namespace PlanarArm

variable {α : Type}

/-- The report of a failure that is neither an abort nor about an accepted command says that a point
is out of reach or out of the joint ranges. -/
def CompletionEvent.Excused (e : CompletionEvent α) (accepted : List (Command α)) : Prop :=
  ∀ error, e.result = .error error →
    error = .stopped ∨ (∃ c ∈ accepted, c.id = e.id) ∨
      ∃ p, error = .unreachable p ∨ error = .jointLimits p

/-- All failures so far are excused, and the waiting commands are accepted ones and points. -/
structure History.Excused (h : History α) : Prop where
  waiting : ∀ c ∈ h.simulator.queue.toList, c ∈ h.accepted ∨ ∃ p, c.kind = .moveTo p
  reported : ∀ e ∈ h.emitted, e.Excused h.accepted

theorem CompletionEvent.excused_of_ok {id : CommandId} {completion : Completion}
    (accepted : List (Command α)) :
    CompletionEvent.Excused (⟨id, .ok completion⟩ : CompletionEvent α) accepted :=
  nofun

theorem CompletionEvent.excused_aborted (id : CommandId) (accepted : List (Command α)) :
    CompletionEvent.Excused (.aborted id : CompletionEvent α) accepted := by
  rintro error ⟨⟩
  exact .inl rfl

theorem CompletionEvent.Excused.mono {e : CompletionEvent α} {accepted more : List (Command α)}
    (excused : e.Excused accepted) (subset : accepted ⊆ more) : e.Excused more := by
  intro error failed
  rcases excused error failed with stopped | ⟨c, mem, named⟩ | point
  · exact .inl stopped
  · exact .inr (.inl ⟨c, subset mem, named⟩)
  · exact .inr (.inr point)

section

variable [Scalar α]

theorem moveTo_of_mem_lineCommands {parent : CommandId} {source target : Point α} {steps : Nat}
    {c : Command α} (mem : c ∈ lineCommands parent source target steps) :
    ∃ p, c.kind = .moveTo p := by
  obtain ⟨index, -, rfl⟩ := List.mem_map.1 mem
  exact ⟨_, rfl⟩

/-- A command that is settled without running is excused if it is an accepted one or a point. -/
theorem Simulator.excused_of_settle {s : Simulator α} {c : Command α} {result : CommandResult α}
    {accepted : List (Command α)} (plan : s.plan c = .settle result)
    (known : c ∈ accepted ∨ ∃ p, c.kind = .moveTo p) :
    CompletionEvent.Excused ⟨c.id, result⟩ accepted := by
  intro error failed
  rcases known with mem | ⟨p, kind⟩
  · exact .inr (.inl ⟨c, mem, rfl⟩)
  · unfold Simulator.plan at plan
    rw [kind] at plan
    dsimp only at plan
    split at plan
    · cases plan
    · next e unsolved =>
      cases plan
      cases failed
      exact .inr (.inr ⟨p, inverse_error unsolved⟩)

end

namespace History.Excused

variable {s t : Simulator α} {accepted : List (Command α)} {collected : List (CompletionEvent α)}

/-- Nothing is reported, and no further command waits. -/
theorem of_same (excused : Excused ⟨s, accepted, collected⟩) (outbox : t.outbox = s.outbox)
    (queue : t.queue.toList ⊆ s.queue.toList) : Excused ⟨t, accepted, collected⟩ := by
  constructor
  · exact fun c mem => excused.waiting c (queue mem)
  · intro e mem
    refine excused.reported e ?_
    rw [emitted, outbox] at mem
    exact mem

theorem emit {id : CommandId} {result : CommandResult α}
    (excused : Excused ⟨s, accepted, collected⟩)
    (told : CompletionEvent.Excused ⟨id, result⟩ accepted) :
    Excused ⟨s.emit id result, accepted, collected⟩ := by
  constructor
  · exact excused.waiting
  · intro e mem
    rw [Account.emitted_emit] at mem
    rcases List.mem_append.1 mem with old | new
    · exact excused.reported e old
    · cases List.mem_singleton.1 new
      exact told

variable [Scalar α]

theorem step (step : s.Step t) (excused : Excused ⟨s, accepted, collected⟩) :
    Excused ⟨t, accepted, collected⟩ := by
  cases step with
  | begin idle next plan =>
    have queue := CommandQueue.toList_of_pop next
    exact excused.of_same rfl (queue ▸ List.subset_cons_self _ _)
  | @replace c rest commands idle next plan =>
    have queue := CommandQueue.toList_of_pop next
    obtain ⟨target, steps, -, rfl⟩ := Simulator.plan_expand plan
    refine emit ⟨fun d mem => ?_, excused.reported⟩ (CompletionEvent.excused_of_ok accepted)
    rcases List.mem_append.1 mem with point | old
    · exact .inr (moveTo_of_mem_lineCommands point)
    · exact excused.waiting d (queue ▸ List.mem_cons_of_mem c old)
  | @settle c rest result idle next plan =>
    have queue := CommandQueue.toList_of_pop next
    have known := excused.waiting c (queue ▸ List.mem_cons_self)
    refine emit (excused.of_same rfl ?_) (Simulator.excused_of_settle plan known)
    exact queue ▸ List.subset_cons_self _ _
  | wait dt busy stage => exact excused.of_same rfl (List.Subset.refl _)
  | move dt busy stage => exact excused.of_same rfl (List.Subset.refl _)
  | arrive dt busy stage =>
    exact emit (excused.of_same rfl (List.Subset.refl _)) (CompletionEvent.excused_of_ok accepted)
  | elapse dt busy stage =>
    exact emit (excused.of_same rfl (List.Subset.refl _)) (CompletionEvent.excused_of_ok accepted)

theorem steps (steps : s.Steps t) (excused : Excused ⟨s, accepted, collected⟩) :
    Excused ⟨t, accepted, collected⟩ :=
  steps.keeps step excused

omit [Scalar α] in
theorem accept (excused : Excused ⟨s, accepted, collected⟩) (c : Command α) :
    Excused ⟨{ s with queue := s.queue.push c }, accepted ++ [c], collected⟩ := by
  constructor
  · intro d mem
    rcases List.mem_append.1 mem with old | new
    · exact (excused.waiting d old).imp_left (List.mem_append_left _)
    · exact .inl (List.mem_append_right accepted new)
  · exact fun e mem => (excused.reported e mem).mono (List.subset_append_left _ _)

omit [Scalar α] in
theorem abort (excused : Excused ⟨s, accepted, collected⟩) (empty : t.queue = .empty)
    (outbox : t.outbox = s.outbox ++ (s.pendingIds.map CompletionEvent.aborted).toArray) :
    Excused ⟨t, accepted, collected⟩ := by
  constructor
  · intro c mem
    rw [empty] at mem
    cases mem
  · intro e mem
    have parts : emitted ⟨t, accepted, collected⟩ =
        emitted ⟨s, accepted, collected⟩ ++ s.pendingIds.map CompletionEvent.aborted := by
      simp [emitted, outbox]
    rw [parts] at mem
    rcases List.mem_append.1 mem with old | new
    · exact excused.reported e old
    · obtain ⟨id, -, rfl⟩ := List.mem_map.1 new
      exact CompletionEvent.excused_aborted id accepted

theorem after {h : History α} (excused : h.Excused) (operation : Operation α) :
    (h.after operation).Excused := by
  cases operation with
  | enqueue c =>
    unfold History.after
    dsimp only
    split
    · next t taken => exact (excused.accept c).steps (Simulator.steps_of_enqueue taken)
    · exact excused
  | tick dt => exact excused.steps (Simulator.steps_tick h.simulator dt)
  | setSpeed value => exact excused.of_same rfl (List.Subset.refl _)
  | resetPath => exact excused.of_same rfl (List.Subset.refl _)
  | stop =>
    unfold History.after
    rw [Simulator.stop_eq]
    exact excused.abort rfl rfl
  | hardReset =>
    unfold History.after
    rw [Simulator.hardReset_eq, Simulator.stop_eq]
    exact excused.abort rfl rfl
  | drain =>
    refine ⟨excused.waiting, fun e mem => excused.reported e ?_⟩
    rw [h.emitted_drain] at mem
    exact mem

theorem run {h : History α} (excused : h.Excused) (operations : List (Operation α)) :
    (h.run operations).Excused :=
  History.run_keeps (fun _ operation excused => excused.after operation) excused operations

end History.Excused

end PlanarArm
