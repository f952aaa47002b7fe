import PlanarArm.Proofs.Session.Once
import PlanarArm.Proofs.Simulator.Waypoints

/-!
# Sessions without aborts

As long as nobody asks for an abort, no command is reported to have been aborted, and failures have
the reasons of `History.Excused`. Submissions are taken in in the order in which they were sent, so
that the tickets of those that were taken in are in order (`Course.Calm.ordered`).

* `Journal.Calm.after`: an action that does not abort keeps a journal calm.
* `Course.Calm.after`: so does whatever happens, apart from requests to abort and the end.
-/

namespace PlanarArm

variable {α : Type}

/-- Whether the request is one to abort all commands. -/
def Request.aborts : Request α → Bool
  | .stop _ | .hardReset _ => true
  | _ => false

/-- Whether the action aborts all commands. -/
def Action.aborts : Action α → Bool
  | .frame _ => false
  | .request r => r.aborts
  | .finish => true

/-- Whether it leaves the commands of the session alone. A session that is killed leaves them as
they are; one that ends aborts them. -/
def Happening.isCalm : Happening α → Bool
  | .stop | .hardReset | .leave => false
  | _ => true

/-! ## Histories and journals -/

section

variable [Scalar α]

theorem Session.aborts_of_operations {s : Session α} {action : Action α}
    (calm : action.aborts = false) : ∀ operation ∈ s.operations action, operation.aborts = false := by
  cases action with
  | frame now => simp [operations, Operation.aborts]
  | request r =>
    cases r with
    | submit c ticket =>
      unfold operations
      dsimp only
      split <;> simp [Operation.aborts]
    | setSpeed value => simp [operations, Operation.aborts]
    | resetPath => simp [operations, Operation.aborts]
    | stop ack => cases calm
    | hardReset ack => cases calm
  | finish => cases calm

theorem History.not_stopped_run {h : History α} {operations : List (Operation α)}
    (before : ∀ e ∈ h.emitted, e.result ≠ .error .stopped)
    (calm : ∀ operation ∈ operations, operation.aborts = false) :
    ∀ e ∈ (h.run operations).emitted, e.result ≠ .error .stopped := by
  induction operations generalizing h with
  | nil => exact before
  | cons operation rest ih =>
    refine ih (fun e mem stopped => ?_) fun later mem => calm later (.tail operation mem)
    rw [h.emitted_after, List.mem_append] at mem
    rcases mem with old | new
    · exact before e old stopped
    · have aborts := (stopped_iff_aborts new).1 stopped
      rw [calm operation List.mem_cons_self] at aborts
      cases aborts

end

/-- The accepted commands have identifiers of the senders' form, and no failure is an abort. -/
structure Journal.Calm (j : Journal α) : Prop where
  plain : ∀ c ∈ j.engine.accepted, c.id.isSub = false
  excused : j.engine.Excused
  unaborted : ∀ e ∈ j.engine.emitted, e.result ≠ .error .stopped

/-- A command that is taken in has an identifier of the senders' form. -/
theorem Journal.mem_accepted_after [Scalar α] {j : Journal α} {action : Action α} {c : Command α}
    (mem : c ∈ (j.after action).engine.accepted) :
    c ∈ j.engine.accepted ∨ c.id.isSub = false := by
  cases action with
  | frame now => exact .inl mem
  | request r =>
    cases r with
    | submit d ticket =>
      cases verdict : j.session.refusal? d with
      | some e =>
        rw [Journal.after, Session.operations, verdict] at mem
        exact .inl mem
      | none =>
        obtain ⟨t, allowed, -, -⟩ := Session.submit_of_accepted verdict ticket
        rw [(Journal.after_of_taken verdict ticket).2.1, History.after, History.after] at mem
        split at mem
        · rcases List.mem_append.1 mem with old | new
          · exact .inl old
          · cases List.mem_singleton.1 new
            exact .inr (Correlation.new_of_not_refused allowed).1
        · exact .inl mem
    | setSpeed value => exact .inl mem
    | resetPath => exact .inl mem
    | stop ack => exact .inl mem
    | hardReset ack => exact .inl mem
  | finish => exact .inl mem

theorem Journal.Calm.after [Scalar α] {j : Journal α} {action : Action α} (calm : j.Calm)
    (quiet : action.aborts = false) : (j.after action).Calm := by
  constructor
  · intro c mem
    rcases Journal.mem_accepted_after mem with old | plain
    · exact calm.plain c old
    · exact plain
  · exact calm.excused.run _
  · exact History.not_stopped_run calm.unaborted (Session.aborts_of_operations quiet)

/-! ## Courses -/

/-- The tickets that are taken in come in the order in which they stand in the inbox. -/
theorem Served.tickets_sublist {before after : Journal α} {x : Option (Command α × Nat)}
    (served : Served before after x) (later : List Nat) :
    (after.tickets ++ later).Sublist
      (before.tickets ++ (x.toList.map Prod.snd ++ later)) := by
  cases served with
  | other tickets accepted refusals =>
    rw [tickets]
    exact .refl _
  | taken tickets accepted refusals =>
    rw [tickets, List.append_assoc]
    exact .refl _
  | refused tickets accepted refusals =>
    rw [tickets]
    exact (List.sublist_append_right _ later).append_left _

namespace Course

variable [Scalar α] {c : Course α}

/-- Nobody has asked for an abort, and the submissions have been served in their order. -/
structure Calm (c : Course α) : Prop where
  sound : c.Sound
  journal : c.journal.Calm
  requests : ∀ r ∈ c.world.inbox.toList, r.aborts = false
  ordered : (c.journal.tickets ++ (submissions c.world.inbox.toList).map Prod.snd).Pairwise (· < ·)

namespace Calm

theorem start (m : ArmModel α) (speed maxStep : α) (reportCapacity : Nat) :
    (Course.start m speed maxStep reportCapacity).Calm where
  sound := .start m speed maxStep reportCapacity
  journal := ⟨nofun, ⟨nofun, nofun⟩, nofun⟩
  requests := nofun
  ordered := .nil

theorem act {served rest : List (Request α)} {action : Action α} (calm : c.Calm)
    (running : c.world.liveness = .running) (inbox : c.world.inbox.toList = served ++ rest)
    (about : submissions served = action.submission?.toList) (quiet : action.aborts = false) :
    (Course.act ⟨{ c.world with inbox := rest.toArray }, c.journal, c.submitted⟩ action).Calm := by
  have left : (Course.act ⟨{ c.world with inbox := rest.toArray }, c.journal, c.submitted⟩
      action).world.inbox = rest.toArray := (World.act_eq _ action).2.2.1
  refine ⟨calm.sound.act running inbox about, calm.journal.after quiet, ?_, ?_⟩
  · rw [left]
    intro r mem
    refine calm.requests r ?_
    rw [inbox]
    exact List.mem_append_right served mem
  · have ordered := calm.ordered
    rw [inbox, submissions_append, about, List.map_append] at ordered
    rw [left]
    exact ordered.sublist ((calm.sound.quiet.served action).tickets_sublist _)

/-- A request that submits nothing is sent, or requests are lost, or receipts change. -/
theorem of_sublist {w : World α} (calm : c.Calm)
    (sound : Sound ⟨w, c.journal, c.submitted⟩)
    (requests : ∀ r ∈ w.inbox.toList, r.aborts = false)
    (inbox : (submissions w.inbox.toList).Sublist (submissions c.world.inbox.toList)) :
    Calm ⟨w, c.journal, c.submitted⟩ := by
  refine ⟨sound, calm.journal, requests, ?_⟩
  exact calm.ordered.sublist ((inbox.map Prod.snd).append_left _)

theorem requests_push {r : Request α} (calm : c.Calm) (quiet : r.aborts = false) :
    ∀ s ∈ (c.world.inbox.push r).toList, s.aborts = false := by
  intro s mem
  rw [Array.toList_push] at mem
  rcases List.mem_append.1 mem with old | new
  · exact calm.requests s old
  · cases List.mem_singleton.1 new
    exact quiet

theorem sendPlain {r : Request α} (calm : c.Calm) (other : r.submission? = none)
    (quiet : r.aborts = false) : (c.sendPlain r).Calm := by
  refine calm.of_sublist (calm.sound.sendPlain other) (calm.requests_push quiet) ?_
  rw [World.send, Sound.submissions_push, other, Option.toList_none, List.append_nil]

theorem close (calm : c.Calm) (ticket : Nat) {done : Receipt α}
    (finished : done = .taken ∨ done = .dropped) :
    (c.close ⟨c.world.receipts.cells.setIfInBounds ticket done⟩).Calm :=
  calm.of_sublist (calm.sound.close ticket finished) calm.requests (.refl _)

theorem submit (calm : c.Calm) (running : c.world.liveness = .running) (command : Command α) :
    (c.submit command).Calm := by
  have pushed : submissions (c.submit command).world.inbox.toList =
      submissions c.world.inbox.toList ++ [(command, c.submitted.length)] := by
    rw [← calm.sound.size_eq]
    exact Sound.submissions_push _ _
  refine ⟨calm.sound.submit running command, calm.journal, calm.requests_push rfl, ?_⟩
  rw [pushed, List.map_append, ← List.append_assoc, List.pairwise_append]
  refine ⟨calm.ordered, List.pairwise_singleton _ _, fun ticket old other new => ?_⟩
  cases List.mem_singleton.1 new
  refine calm.sound.lt_of_mem_places ?_
  rw [places, List.append_assoc]
  exact List.mem_append_right _ old

theorem serve (calm : c.Calm) (running : c.world.liveness = .running) : c.serve.Calm := by
  unfold Course.serve
  split
  · exact calm
  · next r rest inbox =>
    have parted : c.world.inbox.toList = [r] ++ rest := inbox
    have quiet : r.aborts = false := calm.requests r (inbox ▸ List.mem_cons_self)
    exact calm.act running parted (submissions_singleton r) quiet

theorem after (calm : c.Calm) {happening : Happening α} (quiet : happening.isCalm = true) :
    (c.after happening).Calm := by
  have sound := calm.sound.after happening
  unfold Course.after at sound ⊢
  split
  · next going =>
    have running : c.world.liveness = .running := of_decide_eq_true going
    rw [if_pos going] at sound
    cases happening with
    | submit command => exact calm.submit running command
    | setSpeed value => exact calm.sendPlain rfl rfl
    | resetPath => exact calm.sendPlain rfl rfl
    | serve => exact calm.serve running
    | frame now => exact @act _ _ c [] c.world.inbox.toList (.frame now) calm running rfl rfl rfl
    | drop ticket => exact calm.close ticket (.inr rfl)
    | take ticket => exact calm.close ticket (.inl rfl)
    | kill => exact calm.of_sublist sound nofun (List.nil_sublist _)
    | stop | hardReset | leave => cases quiet
  · cases happening with
    | drop ticket => exact calm.close ticket (.inr rfl)
    | take ticket => exact calm.close ticket (.inl rfl)
    | _ => exact calm

theorem run (calm : c.Calm) {happenings : List (Happening α)}
    (quiet : ∀ h ∈ happenings, h.isCalm = true) : (c.run happenings).Calm := by
  induction happenings generalizing c with
  | nil => exact calm
  | cons happening rest ih =>
    exact ih (calm.after (quiet happening List.mem_cons_self)) fun h mem => quiet h (.tail _ mem)

end Calm

end Course

end PlanarArm
