import PlanarArm.Proofs.Simulator.Order

/-!
# What an arm says of a command that has failed

The error in a report is a verdict on the command: where it leads cannot be reached, nobody knows
it, or it was aborted. That a request makes no sense is said before the arm hears of it, and that
nobody is there to answer is said in no report at all (`History.Verdicts.run`).
-/

namespace PlanarArm

variable {α : Type}

/-- Whether the error is about a command that was taken in. -/
def ArmError.isVerdict : ArmError α → Bool
  | .invalidArgument _ | .channel _ => false
  | _ => true

/-- If the command has failed, the error is about it. -/
def CompletionEvent.IsVerdict (e : CompletionEvent α) : Prop :=
  ∀ error, e.result = .error error → error.isVerdict = true

theorem CompletionEvent.isVerdict_ok (id : CommandId) (completion : Completion) :
    IsVerdict (α := α) ⟨id, .ok completion⟩ :=
  nofun

theorem CompletionEvent.isVerdict_aborted (id : CommandId) : (aborted (α := α) id).IsVerdict := by
  intro error failed
  cases failed
  rfl

namespace Simulator

/-- Every report that has not been collected is a verdict. -/
def Verdicts (s : Simulator α) : Prop :=
  ∀ e ∈ s.outbox, e.IsVerdict

theorem Verdicts.push {s t : Simulator α} {e : CompletionEvent α} (verdicts : s.Verdicts)
    (verdict : e.IsVerdict) (told : t.outbox = s.outbox.push e) : t.Verdicts := by
  intro d mem
  rw [told, Array.mem_push] at mem
  rcases mem with old | rfl
  · exact verdicts d old
  · exact verdict

theorem Verdicts.stop {s : Simulator α} (verdicts : s.Verdicts) : s.stop.1.Verdicts := by
  intro e mem
  rw [stop_eq, Array.mem_append] at mem
  rcases mem with old | new
  · exact verdicts e old
  · obtain ⟨id, -, rfl⟩ := List.mem_map.1 (List.mem_toArray.1 new)
    exact CompletionEvent.isVerdict_aborted id

end Simulator

/-- Every report that has been made is a verdict. -/
def History.Verdicts (h : History α) : Prop :=
  ∀ e ∈ h.emitted, e.IsVerdict

variable [Scalar α]

theorem inverse_isVerdict {m : ArmModel α} {target : Point α} {e : ArmError α}
    (failed : inverse m target = .error e) : e.isVerdict = true := by
  rcases inverse_error failed with rfl | rfl <;> rfl

theorem Simulator.plan_isVerdict {s : Simulator α} {c : Command α} {result : CommandResult α}
    (plan : s.plan c = .settle result) : (⟨c.id, result⟩ : CompletionEvent α).IsVerdict := by
  intro error failed
  cases failed
  unfold Simulator.plan Simulator.motionTo at plan
  split at plan
  · cases plan
  · split at plan <;> cases plan
    rfl
  · split at plan
    · cases plan
    · next e failed =>
      cases plan
      exact inverse_isVerdict failed
  · cases plan
  · cases plan
  · cases plan
    rfl

theorem Simulator.verdicts_invariant : Invariant (Verdicts (α := α)) where
  step {s t} step verdicts := by
    cases step with
    | begin idle next plan => exact verdicts
    | replace idle next plan => exact verdicts.push (CompletionEvent.isVerdict_ok _ _) rfl
    | settle idle next plan => exact verdicts.push (plan_isVerdict plan) rfl
    | wait dt busy stage => exact verdicts
    | move dt busy stage => exact verdicts
    | arrive dt busy stage => exact verdicts.push (CompletionEvent.isVerdict_ok _ _) rfl
    | elapse dt busy stage => exact verdicts.push (CompletionEvent.isVerdict_ok _ _) rfl
  push _ verdicts := verdicts
  setSpeed _ verdicts := verdicts
  resetPath verdicts := verdicts
  stop verdicts := verdicts.stop
  hardReset verdicts := by
    rw [hardReset_eq]
    exact verdicts.stop
  drain _ := nofun

namespace History.Verdicts

variable {h : History α}

theorem start (m : ArmModel α) (speed : α) :
    (History.start (.withSpeed m speed)).Verdicts :=
  nofun

theorem after (verdicts : h.Verdicts) (operation : Operation α) : (h.after operation).Verdicts := by
  have fresh : (h.after operation).simulator.Verdicts :=
    Simulator.verdicts_invariant.after
      (fun e mem => verdicts e (List.mem_append_right _ (Array.mem_def.1 mem))) operation
  have kept (same : (h.after operation).collected = h.collected) :
      (h.after operation).Verdicts := by
    intro e mem
    rw [emitted, same, List.mem_append] at mem
    rcases mem with old | new
    · exact verdicts e (List.mem_append_left _ old)
    · exact fresh e (Array.mem_def.2 new)
  cases operation with
  | enqueue c =>
    apply kept
    unfold History.after
    dsimp only
    split <;> rfl
  | drain =>
    unfold History.Verdicts
    rw [emitted_drain]
    exact verdicts
  | _ => exact kept rfl

theorem run (verdicts : h.Verdicts) (operations : List (Operation α)) :
    (h.run operations).Verdicts :=
  History.run_keeps (fun _ operation verdicts => verdicts.after operation) verdicts operations

end History.Verdicts

end PlanarArm
