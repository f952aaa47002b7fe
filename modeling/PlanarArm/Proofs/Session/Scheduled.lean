import PlanarArm.Proofs.Session.Success
import PlanarArm.Session.Agent

/-!
# Senders on any schedule

On a bench the times at which requests are served and frames come are fixed. `Scheduled` leaves them
open: each call of a sender says what it may give and what may have happened around the session by
then, so that what is proved of all `Scheduled` runs of a script holds whenever the session and the
sender get their turns. The sender is the only one.

* `Course.Turns`: what happens while the sender does nothing.
* `Course.Answered.send`, `Course.Answered.submit_await`: a sender that goes on only after a good
  answer has good answers to all that it has submitted.
-/

namespace PlanarArm

variable {α β : Type}

/-- Whether it is a turn of the session, in which no sender has a part. -/
def Happening.isTurn : Happening α → Bool
  | .serve | .frame _ | .kill => true
  | _ => false

/-- Whether a command is submitted. -/
def Happening.isSubmission : Happening α → Bool
  | .submit _ => true
  | _ => false

/-- A computation of a sender beside a session: in which course of things it may start, what it may
give, and what the course of things may be then. -/
def Scheduled (α β : Type) : Type :=
  Course α → β → Course α → Prop

namespace Scheduled

instance : Monad (Scheduled α) where
  pure x := fun c y d => y = x ∧ d = c
  bind x f := fun c y e => ∃ z d, x c z d ∧ f z d y e

end Scheduled

section

variable [Scalar α]

/-- The session takes some turns. -/
def Course.Turns (c d : Course α) : Prop :=
  ∃ happenings : List (Happening α), (∀ h ∈ happenings, h.isTurn = true) ∧ d = c.run happenings

namespace Scheduled

/-- At some moment the sender sends a request, if the session is still there, and goes on at a later
one; `value` is what it gets in its hands by that. -/
def send (happening : Happening α) (value : World α → β) :
    Scheduled α (Except (ArmError α) β) := fun c result e =>
  ∃ d, c.Turns d ∧
    if d.world.isRunning then result = .ok (value d.world) ∧ (d.after happening).Turns e
    else result = .error sessionGone ∧ e = d

/-- The sender waits until there is something to read under a ticket. -/
def await (ticket : Nat) : Scheduled α (CommandResult α) := fun c result e =>
  ∃ d, c.Turns d ∧ d.world.receipts.reading? ticket = some result ∧ e = d.after (.take ticket)

/-- The sender waits for an acknowledgement, or until there is nobody who could give it. -/
def acknowledged (ack : Nat) : Scheduled α (Except (ArmError α) Nat) := fun c result e =>
  c.Turns e ∧
    ((∃ aborted, e.world.acks[ack]? = some (some aborted) ∧ result = .ok aborted) ∨
      e.world.isRunning = false ∧ result = .error sessionGone)

/-- The sender looks at the snapshot that was published last. -/
def snapshot : Scheduled α (Snapshot α) := fun c seen e =>
  c.Turns e ∧ seen = e.world.latest

/-- The sender sends a request and waits for its acknowledgement. -/
def sendAcknowledged (happening : Happening α) : Scheduled α (Except (ArmError α) Nat) := do
  match ← send happening fun w => w.acks.size with
  | .error e => return .error e
  | .ok ack => acknowledged ack

/-- The sender submits a command, and gets its ticket. -/
def submit (command : Command α) : Scheduled α (Except (ArmError α) Nat) :=
  send (.submit command) fun w => w.receipts.cells.size

/-- A sender that submits a command under a new identifier may take any. -/
instance : Agent α (Scheduled α) where
  submit kind := fun c result e =>
    ∃ id ticket, submit ⟨id, kind⟩ c ticket e ∧ result = ticket.map fun ticket => (id, ticket)
  submitCommand := submit
  await := await
  setSpeed value := send (.setSpeed value) fun _ => ()
  resetPath := send .resetPath fun _ => ()
  stop := sendAcknowledged .stop
  hardReset := sendAcknowledged .hardReset
  snapshot := snapshot

end Scheduled

/-! ## A sender that goes on after good answers only -/

namespace Course

variable {c d e : Course α} {commands : List (Command α)}

namespace Turns

theorem refl (c : Course α) : c.Turns c :=
  ⟨[], nofun, rfl⟩

theorem trans (first : c.Turns d) (second : d.Turns e) : c.Turns e := by
  obtain ⟨before, own, rfl⟩ := first
  obtain ⟨later, owned, rfl⟩ := second
  refine ⟨before ++ later, fun h mem => ?_, (List.foldl_append).symm⟩
  rcases List.mem_append.1 mem with old | new
  · exact own h old
  · exact owned h new

theorem serves (c : Course α) (n : Nat) : c.Turns (c.run (List.replicate n .serve)) :=
  ⟨_, fun h mem => by rw [List.eq_of_mem_replicate mem]; rfl, rfl⟩

end Turns

theorem submitted_after {happening : Happening α} (other : happening.isSubmission = false) :
    (c.after happening).submitted = c.submitted := by
  unfold after
  split
  · cases happening with
    | submit command => cases other
    | serve =>
      rw [proceed, serve]
      split <;> rfl
    | leave =>
      rw [proceed, leave]
      split <;> rfl
    | _ => rfl
  · cases happening <;> rfl

theorem after_take (c : Course α) (ticket : Nat) :
    c.after (.take ticket) = c.close (c.world.receipts.take ticket) := by
  unfold after
  split <;> rfl

/-- What the holder of a ticket does with it does not touch the session. -/
theorem session_of_take (c : Course α) (ticket : Nat) :
    (c.after (.take ticket)).world.session = c.world.session ∧
      (c.after (.take ticket)).world.isRunning = c.world.isRunning ∧
      (c.after (.take ticket)).journal = c.journal := by
  rw [c.after_take]
  exact ⟨rfl, rfl, rfl⟩

/-- The commands have been submitted in this order, and the first so many have been answered, and
well. -/
structure Answered (c : Course α) (commands : List (Command α)) (count : Nat) : Prop where
  calm : c.Calm
  submitted : c.submitted = commands
  good : ∀ ticket < count, ∃ completion, (ticket, .ok completion) ∈ answers c.journal.effects

namespace Answered

variable {count : Nat}

theorem start (m : ArmModel α) (speed maxStep : α) (reportCapacity : Nat) :
    (Course.start m speed maxStep reportCapacity).Answered [] 0 :=
  ⟨.start m speed maxStep reportCapacity, rfl, nofun⟩

theorem after (answered : c.Answered commands count) {happening : Happening α}
    (calm : happening.isCalm = true) (other : happening.isSubmission = false) :
    (c.after happening).Answered commands count := by
  refine ⟨answered.calm.after calm, (submitted_after other).trans answered.submitted, ?_⟩
  intro ticket known
  obtain ⟨completion, mem⟩ := answered.good ticket known
  exact ⟨completion, c.answers_after happening mem⟩

theorem submit (answered : c.Answered commands count) (going : c.world.isRunning = true)
    (command : Command α) :
    (c.after (.submit command)).Answered (commands ++ [command]) count := by
  refine ⟨answered.calm.after rfl, ?_, fun ticket known => ?_⟩
  · rw [Course.after, if_pos going, ← answered.submitted]
    rfl
  · obtain ⟨completion, mem⟩ := answered.good ticket known
    exact ⟨completion, c.answers_after _ mem⟩

/-- One more good answer is read. -/
theorem read (answered : c.Answered commands count) {completion : Completion}
    (read : c.world.receipts.reading? count = some (.ok completion)) :
    c.Answered commands (count + 1) := by
  refine ⟨answered.calm, answered.submitted, fun ticket known => ?_⟩
  rcases Nat.lt_succ_iff_lt_or_eq.1 known with before | rfl
  · exact answered.good ticket before
  · refine ⟨completion, answered.calm.sound.follows.answered ticket _ ?_⟩
    unfold Receipts.reading? at read
    split at read
    · cases read
    · next found =>
      cases read
      exact found
    · cases read

theorem turns (answered : c.Answered commands count) (turns : c.Turns d) :
    d.Answered commands count := by
  obtain ⟨happenings, own, rfl⟩ := turns
  induction happenings generalizing c with
  | nil => exact answered
  | cons happening rest ih =>
    refine ih (answered.after ?_ ?_) fun h mem => own h (.tail happening mem)
    all_goals
      have turn := own happening List.mem_cons_self
      cases happening <;> first | rfl | cases turn

/-- A request that neither submits nor aborts is sent, or is not because there is no session. -/
theorem send {happening : Happening α} {value : World α → β} {result : Except (ArmError α) β}
    (answered : c.Answered commands count) (run : Scheduled.send happening value c result d)
    (calm : happening.isCalm = true) (other : happening.isSubmission = false) :
    d.Answered commands count := by
  obtain ⟨between, turns, sent⟩ := run
  split at sent
  · exact ((answered.turns turns).after calm other).turns sent.2
  · obtain ⟨-, rfl⟩ := sent
    exact answered.turns turns

/-- A command is submitted and gets a good answer. -/
theorem submit_await {command : Command α} {ticket : Nat} {completion : Completion}
    (answered : c.Answered commands commands.length)
    (submitted : Scheduled.submit command c (.ok ticket) d)
    (awaited : Scheduled.await ticket d (.ok completion) e) :
    e.Answered (commands ++ [command]) (commands ++ [command]).length := by
  obtain ⟨before, first, sent⟩ := submitted
  obtain ⟨after, second, found, rfl⟩ := awaited
  split at sent
  · next going =>
    obtain ⟨handed, further⟩ := sent
    have old := answered.turns first
    have size : before.world.receipts.cells.size = commands.length := by
      rw [old.calm.sound.size_eq, old.submitted]
    have last : ticket = commands.length := (Except.ok.inj handed).trans size
    rw [last] at found ⊢
    rw [List.length_append, List.length_singleton]
    exact ((((old.submit going command).turns further).turns second).read found).after rfl rfl
  · cases sent.1

end Answered

/-- Once all commands have been answered well, they have been carried out. -/
theorem Answered.carriedOut (answered : c.Answered commands commands.length) : c.CarriedOut := by
  refine answered.calm.carriedOut fun ticket known => answered.good ticket ?_
  rwa [answered.submitted] at known

end Course

end

end PlanarArm
