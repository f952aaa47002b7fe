import PlanarArm.Proofs.Arm.Model
import PlanarArm.Proofs.Simulator.Gap

/-!
# The start loop comes to an end

A turn of the start loop takes the next command off the queue and starts it. It can make the queue
longer, since a line leaves its waypoints behind. But no waypoint leaves anything behind, and the
hand stays where it is. So the loop walks along a list that is known when it begins: the queue in
which each line is followed by its waypoints (`unrolled`).

* `Simulator.Takes`: turns of the loop, with the commands that they take.
* `Simulator.Takes.unrolled_eq`: what has been taken, followed by what is still to come, is always
  the same list.
* `Simulator.Takes.reports`: what has been taken has been reported on, but for the last command if
  that one runs.
* `Simulator.Takes.prefix_of_settled`: where the loop has ended, no other turns can have been made.
* `start_loop_ends`: all of it together, for an accepted arm that is not busy.
-/

namespace PlanarArm

variable {α : Type} [Scalar α]

/-! ## What the queue may come to -/

/-- The commands that a line leaves behind when it is replaced with the hand at that point. -/
def Command.waypoints (c : Command α) (hand : Point α) : List (Command α) :=
  match c.kind with
  | .lineTo target steps => lineCommands c.id hand target steps
  | _ => []

/-- The commands, each line followed by its waypoints. -/
def unrolled (hand : Point α) (cs : List (Command α)) : List (Command α) :=
  cs.flatMap fun c => c :: c.waypoints hand

/-- No waypoint is a line. -/
theorem Command.waypoints_of_mem {c d : Command α} {hand : Point α} (mem : d ∈ c.waypoints hand)
    (other : Point α) : d.waypoints other = [] := by
  unfold waypoints at mem
  split at mem
  · obtain ⟨k, -, rfl⟩ := List.mem_map.1 mem
    rfl
  · cases mem

theorem unrolled_cons (hand : Point α) (c : Command α) (rest : List (Command α)) :
    unrolled hand (c :: rest) = c :: (c.waypoints hand ++ unrolled hand rest) :=
  List.flatMap_cons

theorem unrolled_append (hand : Point α) (cs ds : List (Command α)) :
    unrolled hand (cs ++ ds) = unrolled hand cs ++ unrolled hand ds :=
  List.flatMap_append

/-- The waypoints of a line stay as they are. -/
theorem unrolled_waypoints (hand : Point α) (c : Command α) :
    unrolled hand (c.waypoints hand) = c.waypoints hand := by
  have single : ∀ d ∈ c.waypoints hand, d :: d.waypoints hand = [d] := fun d mem =>
    congrArg (d :: ·) (Command.waypoints_of_mem mem hand)
  calc unrolled hand (c.waypoints hand)
      = (c.waypoints hand).flatMap fun d => [d] := List.flatMap_congr single
    _ = c.waypoints hand := List.flatMap_singleton' _

theorem Command.length_cons_waypoints (c : Command α) (hand : Point α) :
    (c :: c.waypoints hand).length = c.weight := by
  unfold waypoints weight
  cases c.kind with
  | lineTo target steps =>
    dsimp only
    rw [List.length_cons, length_lineCommands, Nat.add_comm]
  | _ => rfl

theorem length_unrolled (hand : Point α) (cs : List (Command α)) :
    (unrolled hand cs).length = (cs.map Command.weight).sum := by
  rw [unrolled, List.length_flatMap]
  exact congrArg List.sum (List.map_congr_left fun c _ => c.length_cons_waypoints hand)

namespace Simulator

/-! ## Turns of the loop -/

/-- Turns of the start loop lead from one simulator to another, and these are the commands that they
take off the queue. There is no turn while a command runs or none waits. -/
inductive Takes : Simulator α → List (Command α) → Simulator α → Prop
  | refl (s : Simulator α) : Takes s [] s
  | turn {s t : Simulator α} {c : Command α} {rest : CommandQueue α} {cs : List (Command α)}
      (idle : s.running = none) (next : s.queue.pop? = some (c, rest))
      (later : Takes ({ s with queue := rest }.start c) cs t) : Takes s (c :: cs) t

/-- A start changes nothing but what runs, what waits and what is reported. -/
theorem start_kept (s : Simulator α) (c : Command α) (running : Option (Running α))
    (queue : CommandQueue α) (outbox : Array (CompletionEvent α)) :
    { s.start c with running := running, queue := queue, outbox := outbox } =
      { s with running := running, queue := queue, outbox := outbox } := by
  unfold start
  cases s.plan c <;> rfl

/-- Only a line is replaced, and its waypoints come from where the hand is. -/
theorem waypoints_eq (s : Simulator α) (c : Command α) :
    c.waypoints s.placement.hand =
      match s.plan c with
      | .expand commands => commands
      | _ => [] := by
  cases kind : c.kind with
  | lineTo target steps =>
    rw [plan_line kind, Command.waypoints, kind]
  | _ =>
    have plain : ∀ commands, s.plan c ≠ .expand commands := fun commands plan => by
      obtain ⟨target, steps, line, -⟩ := plan_expand plan
      cases kind.symm.trans line
    rw [Command.waypoints, kind]
    cases plan : s.plan c with
    | expand commands => exact absurd plan (plain commands)
    | _ => rfl

/-- The waypoints of a line take their place before all that wait. -/
theorem toList_queue_start (s : Simulator α) (c : Command α) :
    (s.start c).queue.toList = c.waypoints s.placement.hand ++ s.queue.toList := by
  rw [waypoints_eq, start]
  cases s.plan c <;> rfl

/-- A turn takes the first command off the list that the loop walks along. -/
theorem unrolled_start {s : Simulator α} {c : Command α} {rest : CommandQueue α}
    (next : s.queue.pop? = some (c, rest)) :
    c :: unrolled s.placement.hand ({ s with queue := rest }.start c).queue.toList =
      unrolled s.placement.hand s.queue.toList := by
  have placed : ({ s with queue := rest } : Simulator α).placement = s.placement := rfl
  have waiting := toList_queue_start { s with queue := rest } c
  rw [placed] at waiting
  rw [waiting, CommandQueue.toList_of_pop next, unrolled_cons, unrolled_append,
    unrolled_waypoints]

theorem passesOver_congr {s t : Simulator α} (plans : ∀ c, t.plan c = s.plan c) :
    t.PassesOver = s.PassesOver := by
  funext c e
  rw [PassesOver, plans, PassesOver]

namespace Takes

variable {s t u : Simulator α} {cs ds : List (Command α)}

/-- The turns change nothing but what runs, what waits and what is reported. -/
theorem kept (takes : s.Takes cs t) :
    t = { s with running := t.running, queue := t.queue, outbox := t.outbox } := by
  induction takes with
  | refl s => rfl
  | turn idle next later ih => exact ih.trans (start_kept _ _ _ _ _)

theorem placement_eq (takes : s.Takes cs t) : t.placement = s.placement := by
  rw [takes.kept]
  rfl

theorem plan_eq (takes : s.Takes cs t) (c : Command α) : t.plan c = s.plan c := by
  rw [takes.kept]
  rfl

/-- One turn, seen from its beginning. -/
theorem single {c : Command α} {rest : CommandQueue α} (idle : s.running = none)
    (next : s.queue.pop? = some (c, rest)) : s.Takes [c] ({ s with queue := rest }.start c) :=
  .turn idle next (.refl _)

/-- What has been taken, followed by what is still to come, is the list that the loop walks
along. -/
theorem unrolled_eq (takes : s.Takes cs t) :
    cs ++ unrolled s.placement.hand t.queue.toList =
      unrolled s.placement.hand s.queue.toList := by
  induction takes with
  | refl s => rfl
  | @turn s t c rest cs idle next later ih =>
    rw [(single idle next).placement_eq] at ih
    rw [List.cons_append, ih, unrolled_start next]

/-- Where the loop has ended, no other turns can have been made. -/
theorem prefix_of_settled (takes : s.Takes cs t) (settled : t.Settled) (others : s.Takes ds u) :
    ds <+: cs := by
  -- There is only one way to make a turn, so that both go along together.
  induction others generalizing cs with
  | refl s => exact List.nil_prefix
  | turn idle next later ih =>
    cases takes with
    | refl =>
      cases (CommandQueue.toList_of_pop next).symm.trans (settled idle)
    | turn idle' next' later' =>
      cases next.symm.trans next'
      exact List.cons_prefix_cons.2 ⟨rfl, ih later'⟩

/-- No turn is made while a command runs. -/
theorem of_busy {r : Running α} (takes : s.Takes cs t) (busy : s.running = some r) :
    cs = [] ∧ t = s := by
  cases takes with
  | refl => exact ⟨rfl, rfl⟩
  | turn idle => cases idle.symm.trans busy

/-- What has been taken has been reported on, one command after the other, and none runs; or the
last command that has been taken runs, and those before it have been reported on. -/
theorem reports (takes : s.Takes cs t) (idle : s.running = none) :
    ∃ (ended : List (Command α)) (events : List (CompletionEvent α)),
      List.Forall₂ s.PassesOver ended events ∧ t.outbox = s.outbox ++ events.toArray ∧
      ((t.running = none ∧ cs = ended) ∨
        ∃ c activity, t.running = some (.begin c.id activity) ∧ s.plan c = .run activity ∧
          cs = ended ++ [c]) := by
  induction takes with
  | refl s => exact ⟨[], [], .nil, Array.append_empty.symm, .inl ⟨idle, rfl⟩⟩
  | @turn s t c rest cs _ next later ih =>
    rcases start_cases { s with queue := rest } c with
      ⟨activity, plan, started⟩ | ⟨e, passed, still, told⟩
    · rw [started] at later
      obtain ⟨rfl, rfl⟩ := later.of_busy rfl
      exact ⟨[], [], .nil, Array.append_empty.symm, .inr ⟨c, activity, rfl, plan, rfl⟩⟩
    · obtain ⟨ended, events, passes, further, ends⟩ := ih (still.trans idle)
      rw [passesOver_congr (single idle next).plan_eq] at passes
      refine ⟨c :: ended, e :: events, .cons passed passes, ?_, ?_⟩
      · rw [further, told]
        simp
      · rcases ends with ⟨halted, rfl⟩ | ⟨d, activity, runs, plan, rfl⟩
        · exact .inl ⟨halted, rfl⟩
        · exact .inr ⟨d, activity, runs, ((single idle next).plan_eq d).symm.trans plan, rfl⟩

end Takes

/-! ## The whole loop -/

/-- The start loop makes turns. -/
theorem takes_startNext (s : Simulator α) : ∃ taken, s.Takes taken s.startNext := by
  induction s using startNext.induct with
  | case1 s r busy => exact ⟨[], (startNext_of_running busy).symm ▸ .refl s⟩
  | case2 s idle empty => exact ⟨[], (startNext_of_empty idle empty).symm ▸ .refl s⟩
  | case3 s idle c rest next ih =>
    obtain ⟨taken, takes⟩ := ih
    rw [startNext_of_next idle next]
    exact ⟨c :: taken, .turn idle next takes⟩

/-- A joint of an accepted arm has an angle to go to, whatever it is told. -/
theorem plan_ne_emptyRange [Scalar.FiniteTotal α] {s : Simulator α} (accepted : s.model.Accepted)
    (c : Command α) : s.plan c ≠ .settle (.error .emptyRange) := by
  intro plan
  unfold Simulator.plan motionTo at plan
  split at plan
  · cases plan
  · next degrees kind =>
    obtain ⟨target, clamped⟩ := accepted.clamp (degrees.map Scalar.ofDegrees)
    rw [clamped] at plan
    cases plan
  · split at plan
    · cases plan
    · next e failed =>
      cases plan
      rcases inverse_error failed with other | other <;> cases other
  · cases plan
  · cases plan
  · cases plan

theorem PassesOver.plan_ne_run {s : Simulator α} {c : Command α} {e : CompletionEvent α}
    (passed : s.PassesOver c e) (activity : Activity α) : s.plan c ≠ .run activity := by
  intro runs
  rcases passed.2 with settled | ⟨-, commands, expanded⟩
  · cases runs.symm.trans settled
  · cases runs.symm.trans expanded

theorem PassesOver.ne_emptyRange [Scalar.FiniteTotal α] {s : Simulator α} {c : Command α}
    {e : CompletionEvent α} (passed : s.PassesOver c e) (accepted : s.model.Accepted) :
    e.result ≠ .error .emptyRange := by
  intro failed
  rcases passed.2 with settled | ⟨expanded, -⟩
  · exact plan_ne_emptyRange accepted c (failed ▸ settled)
  · cases failed.symm.trans expanded

end Simulator

/-- The start loop of an accepted arm that is not busy comes to an end, whatever waits. It takes at
most one command for each that waits and one more for each waypoint of a waiting line, and no turns
can be made but those that it makes. What it takes is the beginning of the queue in which each line
is followed by its waypoints from where the hand is, and what is left of that list still waits. The
commands are reported on one after the other, and no report says that a joint has no angle to go to.
Only the last command may be without a report, and then it runs; if none runs, none waits. Nothing
else changes. -/
theorem start_loop_ends [Scalar.FiniteTotal α] {s : Simulator α} (accepted : s.model.Accepted)
    (idle : s.running = none) :
    let hand := s.placement.hand
    let t := s.startNext
    ∃ (taken ended : List (Command α)) (events : List (CompletionEvent α)),
      s.Takes taken t ∧ (∀ cs u, s.Takes cs u → cs <+: taken) ∧
      taken.length ≤ (s.queue.toList.map fun c =>
        match c.kind with
        | .lineTo _ steps => 1 + max steps 2
        | _ => 1).sum ∧
      taken ++ unrolled hand t.queue.toList = unrolled hand s.queue.toList ∧
      List.Forall₂ (fun c e => s.PassesOver c e ∧ e.result ≠ .error .emptyRange) ended events ∧
      t = { s with
        running := t.running, queue := t.queue, outbox := s.outbox ++ events.toArray } ∧
      ((t.running = none ∧ t.queue = .empty ∧ taken = ended) ∨
        ∃ c activity, t.running = some (.begin c.id activity) ∧ s.plan c = .run activity ∧
          taken = ended ++ [c]) := by
  intro hand t
  obtain ⟨taken, takes⟩ := s.takes_startNext
  have settled := Simulator.Settled.startNext s
  obtain ⟨ended, events, passes, outbox, ends⟩ := takes.reports idle
  have walked : taken ++ unrolled hand t.queue.toList = unrolled hand s.queue.toList :=
    takes.unrolled_eq
  have bound : taken.length ≤ (s.queue.toList.map Command.weight).sum := by
    rw [← length_unrolled hand, ← walked, List.length_append]
    exact Nat.le_add_right _ _
  refine ⟨taken, ended, events, takes, fun cs u => takes.prefix_of_settled settled, bound, walked,
    passes.imp fun c e passed => ⟨passed, passed.ne_emptyRange accepted⟩, ?_, ?_⟩
  · rw [← outbox]
    exact takes.kept
  · exact ends.imp_left fun ⟨halted, all⟩ => ⟨halted, settled.empty halted, all⟩

/-- A line that leads out of reach, a command that nobody knows, and a nap: five commands start at
most, and one of them runs. -/
theorem start_loop_ends_line :
    let line : CommandId := ⟨"line"⟩
    let nap : Command Float := ⟨⟨"nap"⟩, .sleep 1⟩
    let s : Simulator Float := { Simulator.create .standard with
      queue := ((CommandQueue.empty.push ⟨line, .lineTo ⟨5, 0⟩ 2⟩).push
        ⟨⟨"wave"⟩, .unknown "WAVE"⟩).push nap }
    s.model.Accepted ∧ s.running = none ∧
      ∃ taken, s.Takes taken s.startNext ∧ taken.length ≤ 5 ∧
        taken.map Command.id <+: [line, line.sub 1, line.sub 2, ⟨"wave"⟩, nap.id] ∧
        s.startNext.isBusy = true := by
  intro line nap s
  have accepted : s.model.Accepted := by
    refine ArmModel.accepted_iff.2 ⟨?_, ?_, ?_, ?_, ?_⟩ <;> decide +kernel
  obtain ⟨taken, ended, events, takes, -, bound, walked, passes, -, ends⟩ :=
    start_loop_ends accepted rfl
  refine ⟨accepted, rfl, taken, takes, bound, ?_, ?_⟩
  · have walk : taken <+: unrolled s.placement.hand s.queue.toList := ⟨_, walked⟩
    exact walk.map Command.id
  · rcases ends with ⟨-, empty, rfl⟩ | ⟨c, activity, runs, -⟩
    · -- If all had been passed over, so had the nap, which runs.
      rw [empty] at walked
      have among : nap ∈ taken := by
        rw [← List.append_nil taken]
        exact walked ▸ List.mem_flatMap.2
          ⟨nap, List.mem_of_getElem? (i := 2) rfl, List.mem_cons_self⟩
      have passed : ∀ c ∈ taken, ∀ activity, s.plan c ≠ .run activity :=
        ((List.forall₂_and_left _ _).1 (passes.imp fun c e passed =>
          ⟨passed.1.plan_ne_run, passed⟩)).1
      exact absurd rfl (passed nap among (.sleep (Scalar.maxNum 1 0.0)))
    · exact Option.isSome_iff_exists.2 ⟨_, runs⟩

end PlanarArm
