import PlanarArm.Proofs.Simulator.Gap

/-!
# What is taken up

The start loop takes up commands until one of them runs. `Simulator.takesUp?` is that command and
what it does; it follows the loop and says nothing of what else the loop leaves behind.

## Main results

* `Simulator.running_startNext`: what runs after the start loop is what it takes up.
* `Simulator.plan_of_takesUp`: it does what the arm makes of the command where it stands.
-/

namespace PlanarArm

variable {α : Type} [Scalar α]

namespace Simulator

/-- The command that the start loop takes up to run, and what it does. -/
def takesUp? (s : Simulator α) : Option (Command α × Activity α) :=
  match s.running with
  | some _ => none
  | none =>
    match _h : s.queue.pop? with
    | none => none
    | some (c, rest) =>
      match { s with queue := rest }.plan c with
      | .run activity => some (c, activity)
      | _ => takesUp? ({ s with queue := rest }.start c)
termination_by s.queue.weight
decreasing_by exact weight_start_lt _h

theorem takesUp?_of_running {s : Simulator α} {r : Running α} (busy : s.running = some r) :
    s.takesUp? = none := by
  rw [takesUp?, busy]

theorem takesUp?_of_empty {s : Simulator α} (idle : s.running = none)
    (empty : s.queue.pop? = none) : s.takesUp? = none := by
  rw [takesUp?, idle]
  dsimp only
  split
  · rfl
  · next c rest next => cases empty.symm.trans next

theorem takesUp?_of_next {s : Simulator α} {c : Command α} {rest : CommandQueue α}
    (idle : s.running = none) (next : s.queue.pop? = some (c, rest)) :
    s.takesUp? = match { s with queue := rest }.plan c with
      | .run activity => some (c, activity)
      | _ => takesUp? ({ s with queue := rest }.start c) := by
  rw [takesUp?, idle]
  dsimp only
  split
  · next empty => cases empty.symm.trans next
  · next d rest' next' =>
    cases next.symm.trans next'
    rfl

/-- What runs after the start loop is what it takes up. -/
theorem running_startNext {s : Simulator α} (idle : s.running = none) :
    s.startNext.running = s.takesUp?.map fun taken => .begin taken.1.id taken.2 := by
  induction s using startNext.induct with
  | case1 s r busy => cases idle.symm.trans busy
  | case2 s _ empty =>
    rw [startNext_of_empty idle empty, takesUp?_of_empty idle empty, idle, Option.map_none]
  | case3 s _ c rest next ih =>
    rw [startNext_of_next idle next, takesUp?_of_next idle next]
    cases plan : { s with queue := rest }.plan c with
    | run activity =>
      rw [start, plan]
      exact congrArg running (startNext_of_running rfl)
    | expand commands =>
      have still : ({ s with queue := rest }.start c).running = none := by
        rw [start, plan]
        exact idle
      exact ih still
    | settle result =>
      have still : ({ s with queue := rest }.start c).running = none := by
        rw [start, plan]
        exact idle
      exact ih still

/-- What is taken up does what the arm makes of it where it stands. -/
theorem plan_of_takesUp {s : Simulator α} {c : Command α} {activity : Activity α}
    (taken : s.takesUp? = some (c, activity)) : s.plan c = .run activity := by
  induction s using startNext.induct with
  | case1 s r busy => cases (takesUp?_of_running busy).symm.trans taken
  | case2 s idle empty => cases (takesUp?_of_empty idle empty).symm.trans taken
  | case3 s idle d rest next ih =>
    rw [takesUp?_of_next idle next] at taken
    have same : ({ s with queue := rest } : Simulator α).plan c = s.plan c :=
      plan_congr rfl rfl rfl c
    cases plan : { s with queue := rest }.plan d with
    | run started =>
      rw [plan] at taken
      cases taken
      rw [← same, plan]
    | expand commands =>
      rw [plan] at taken
      rw [← same, ← plan_start, ih taken]
    | settle result =>
      rw [plan] at taken
      rw [← same, ← plan_start, ih taken]

/-- Only a command to sleep lets time pass, as much as it says if that is not negative. -/
theorem plan_sleep_iff {s : Simulator α} {c : Command α} {duration : α} :
    s.plan c = .run (.sleep duration) ↔
      ∃ seconds, c.kind = .sleep seconds ∧ duration = Scalar.maxNum seconds 0.0 := by
  constructor
  · intro sleeps
    unfold plan motionTo at sleeps
    split at sleeps
    · cases sleeps
    · split at sleeps <;> cases sleeps
    · split at sleeps <;> cases sleeps
    · next seconds kind =>
      cases sleeps
      exact ⟨seconds, kind, rfl⟩
    · cases sleeps
    · cases sleeps
  · rintro ⟨seconds, kind, rfl⟩
    rw [plan, kind]

/-- A command that is taken in waits behind all others, and the start loop follows. -/
theorem startNext_of_enqueue {s t : Simulator α} {c : Command α} (accepted : s.enqueue c = .ok t) :
    { s with queue := s.queue.push c }.startNext = t := by
  unfold enqueue at accepted
  split at accepted
  · cases accepted
  · cases accepted
    rfl

end Simulator

end PlanarArm
