import PlanarArm.Proofs.Session.Scheduled

/-!
# A bench keeps to a schedule

What a sender does on a bench is one of the things that it can do on some schedule: `Bench.Realises`
says so of a call, and of what is made up of such calls (`Bench.Realises.bind`).
-/

namespace PlanarArm

variable {α β γ : Type} [Scalar α]

/-! ## Turns -/

theorem World.foldl_act_inbox (requests : List (Request α)) (w : World α)
    (inbox : Array (Request α)) :
    requests.foldl (fun w r => w.act (.request r)) { w with inbox := inbox } =
      { requests.foldl (fun w r => w.act (.request r)) w with inbox := inbox } := by
  induction requests generalizing w with
  | nil => rfl
  | cons r rest ih => rw [List.foldl_cons, World.act_inbox, ih, List.foldl_cons]

namespace Course

variable {c : Course α}

/-- A course in which a session that has gone leaves no request behind. -/
structure Tidy (c : Course α) : Prop where
  sound : c.Sound
  idle : c.world.isRunning = false → c.world.inbox = #[]

namespace Tidy

theorem start (m : ArmModel α) (speed maxStep : α) (reportCapacity : Nat) :
    (Course.start m speed maxStep reportCapacity).Tidy :=
  ⟨.start m speed maxStep reportCapacity, fun _ => rfl⟩

theorem of_running {happenings : List (Happening α)} (tidy : c.Tidy)
    (going : (c.run happenings).world.isRunning = true) : (c.run happenings).Tidy :=
  ⟨tidy.sound.further happenings, fun gone => absurd (going.symm.trans gone) Bool.false_ne_true.symm⟩

/-- The session serves whatever has arrived. -/
theorem serve (tidy : c.Tidy) :
    ∃ d, c.Turns d ∧ d.Tidy ∧ d.world = c.world.serve ∧
      d.world.isRunning = c.world.isRunning := by
  cases running : c.world.isRunning with
  | true =>
    obtain ⟨served, going, -⟩ := run_replicate c.world.inbox.toList running rfl
    rw [← served] at going
    exact ⟨_, .serves c _, tidy.of_running going, served, going⟩
  | false =>
    have empty := tidy.idle running
    refine ⟨c, .refl c, tidy, ?_, running⟩
    rw [World.serve_of_empty (congrArg Array.toList empty), ← empty]

/-- A frame comes, before which the session serves whatever has arrived. -/
theorem frame (tidy : c.Tidy) (running : c.world.isRunning = true) (now : Nat) :
    ∃ d, c.Turns d ∧ d.Tidy ∧ d.world = c.world.frame now ∧ d.world.isRunning = true := by
  have world := c.run_frame running now
  have going : (c.world.frame now).isRunning = true := by
    obtain ⟨-, still, -⟩ := run_replicate c.world.inbox.toList running rfl
    rw [← still]
    exact congrArg (fun l => decide (l = .running)) (World.act_eq c.world.serve (.frame now)).2.1
  rw [← world] at going
  refine ⟨_, ⟨_, fun h mem => ?_, rfl⟩, tidy.of_running going, world, going⟩
  rcases List.mem_append.1 mem with served | last
  · rw [List.eq_of_mem_replicate served]
    rfl
  · rw [List.mem_singleton.1 last]
    rfl

/-- A request arrives, before which the session may serve whatever has arrived earlier. -/
theorem send {w : World α} {r : Request α} (tidy : c.Tidy) (running : c.world.isRunning = true)
    (sent : c.world = w.send r) :
    ∃ d, c.Turns d ∧ d.Tidy ∧ d.world = w.serve.send r := by
  have inbox : c.world.inbox.toList = w.inbox.toList ++ [r] := by
    rw [sent]
    exact Array.toList_push
  obtain ⟨served, going, -⟩ := run_serves w.inbox.toList [r] running inbox
  rw [← served] at going
  refine ⟨_, .serves c _, tidy.of_running going, served.trans ?_⟩
  have arrived : ({ c.world with inbox := [r].toArray } : World α) = { w with inbox := #[r] } := by
    rw [sent]
    rfl
  have earlier : w.serve =
      { w.inbox.toList.foldl (fun w r => w.act (.request r)) w with inbox := #[] } := by
    rw [World.serve, ← Array.foldl_toList, World.foldl_act_inbox]
  rw [arrived, World.foldl_act_inbox, earlier]
  rfl

/-- The session is killed while somebody waits. -/
theorem kill (tidy : c.Tidy) (running : c.world.isRunning = true) {ticket : Nat}
    (waits : c.world.receipts.reading? ticket = none) :
    ∃ d, c.Turns d ∧ d.Tidy ∧ d.world = c.world.abort ∧
      d.world.receipts.reading? ticket = some (.error sessionGone) := by
  have killed : c.after .kill = ⟨c.world.abort, c.journal, c.submitted⟩ := by
    rw [Course.after, if_pos running, proceed]
  refine ⟨c.after .kill, ⟨[.kill], by simp [Happening.isTurn], rfl⟩,
    ⟨tidy.sound.after .kill, fun _ => ?_⟩, ?_, ?_⟩
  · rw [killed]
    rfl
  · rw [killed]
  · rw [killed]
    exact Receipts.reading?_abandon waits

theorem take (tidy : c.Tidy) (ticket : Nat) : (c.after (.take ticket)).Tidy := by
  refine ⟨tidy.sound.after _, fun gone => ?_⟩
  rw [after_take] at gone ⊢
  exact tidy.idle gone

end Tidy

end Course

/-! ## Calls -/

namespace Bench

variable {b : Bench α} {c : Course α} {ticket : Nat}

/-- A request arrives. If the inbox is full, that is the same as if it had arrived earlier, and the
session served all but it. -/
theorem send_turns {r : Request α} (tidy : c.Tidy) (running : c.world.isRunning = true)
    (sent : c.world = b.world.send r) :
    ∃ d, c.Turns d ∧ d.Tidy ∧ d.world = (b.send r).world := by
  unfold send
  split
  · exact ⟨c, .refl c, tidy, sent⟩
  · exact tidy.send running sent

/-- Frames come until there is something to read. -/
theorem awaitFrames_turns (fuel : Nat) (tidy : c.Tidy) (same : c.world = b.world)
    (running : c.world.isRunning = true) (waits : b.answer? ticket = none) :
    ∃ d, c.Turns d ∧ d.Tidy ∧ d.world = (b.awaitFrames ticket fuel).2.world ∧
      d.world.receipts.reading? ticket = some (b.awaitFrames ticket fuel).1 := by
  induction fuel generalizing b c with
  | zero =>
    have waiting : c.world.receipts.reading? ticket = none := by rw [same]; exact waits
    obtain ⟨d, turns, tidy, world, read⟩ := tidy.kill running waiting
    exact ⟨d, turns, tidy, by rw [world, same]; rfl, read⟩
  | succ fuel ih =>
    obtain ⟨d, turns, tidy, world, going⟩ := tidy.frame running (b.nextFrame * b.period)
    have framed : d.world = b.frame.world := by rw [world, same]; rfl
    unfold awaitFrames
    dsimp only
    cases answer : b.frame.answer? ticket with
    | some result =>
      refine ⟨d, turns, tidy, framed, ?_⟩
      rw [framed]
      exact answer
    | none =>
      obtain ⟨e, further, tidy, world, read⟩ := ih tidy framed going answer
      exact ⟨e, turns.trans further, tidy, world, read⟩

/-- What a computation does on a bench, it does on some schedule. -/
def Realises (x : StateM (Bench α) β) (y : Scheduled α β) : Prop :=
  ∀ (b : Bench α) (c : Course α), c.Tidy → c.world = b.world →
    ∃ d, y c (x b).1 d ∧ d.Tidy ∧ d.world = (x b).2.world

namespace Realises

theorem pure (x : β) : Realises (α := α) (pure x) (pure x) :=
  fun _ c tidy same => ⟨c, ⟨rfl, rfl⟩, tidy, same⟩

theorem bind {x : StateM (Bench α) β} {y : Scheduled α β} {f : β → StateM (Bench α) γ}
    {g : β → Scheduled α γ} (first : Realises x y) (second : ∀ z, Realises (f z) (g z)) :
    Realises (x >>= f) (y >>= g) := by
  intro b c tidy same
  obtain ⟨d, given, tidy, same⟩ := first b c tidy same
  obtain ⟨e, later, tidy, same⟩ := second (x b).1 (x b).2 d tidy same
  exact ⟨e, ⟨_, d, given, later⟩, tidy, same⟩

/-- A request is sent, and the sender has got something in its hands by that. -/
theorem send {happening : Happening α} {value : World α → β} {call : StateM (Bench α) _}
    (gone : ∀ b : Bench α, b.world.isRunning = false → call b = (.error sessionGone, b))
    (going : ∀ (b : Bench α) (c : Course α), b.world.isRunning = true → c.world = b.world →
      ∃ (b' : Bench α) (r : Request α), call b = (.ok (value b.world), b'.send r) ∧
        b'.world.isRunning = true ∧ (c.after happening).world = b'.world.send r) :
    Realises call (Scheduled.send happening value) := by
  intro b c tidy same
  cases running : b.world.isRunning with
  | true =>
    obtain ⟨b', r, called, still, sent⟩ := going b c running same
    have sending : (c.run [happening]).world.isRunning = true :=
      (congrArg World.isRunning sent).trans still
    obtain ⟨d, turns, tidy, world⟩ := send_turns (tidy.of_running sending) sending sent
    refine ⟨d, ⟨c, .refl c, ?_⟩, tidy, ?_⟩
    · rw [same, running, if_pos rfl, called]
      exact ⟨rfl, turns⟩
    · rw [called, world]
  | false =>
    refine ⟨c, ⟨c, .refl c, ?_⟩, tidy, ?_⟩
    · rw [same, running, if_neg Bool.false_ne_true, gone b running]
      exact ⟨rfl, rfl⟩
    · rw [gone b running, same]

theorem submitCommand (command : Command α) :
    Realises (Agent.submitCommand command : StateM (Bench α) _) (Agent.submitCommand command) := by
  change Realises (α := α) _ (Scheduled.send (.submit command) fun w => w.receipts.cells.size)
  refine send (fun b gone => ?_) fun b c running same => ?_
  · change b.submitCommand command = _
    rw [Bench.submitCommand, gone, if_neg Bool.false_ne_true]
  · refine ⟨{ b with world := { b.world with receipts := b.world.receipts.issue.2 } },
      .submit command b.world.receipts.cells.size, ?_, running, ?_⟩
    · change b.submitCommand command = _
      rw [Bench.submitCommand, running, if_pos rfl]
      rfl
    · rw [Course.after, same, running, if_pos rfl, Course.proceed, Course.submit, same]
      rfl

theorem plain {happening : Happening α} {request : Request α}
    (sends : ∀ c : Course α, c.world.isRunning = true →
      (c.after happening).world = c.world.send request) :
    Realises (α := α) (fun b => b.sendPlain request) (Scheduled.send happening fun _ => ()) := by
  refine send (fun b gone => ?_) fun b c running same => ⟨b, request, ?_, running, ?_⟩
  · rw [sendPlain, gone, if_neg Bool.false_ne_true]
  · rw [sendPlain, running, if_pos rfl]
  · rw [sends c (by rw [same, running]), same]

theorem setSpeed (value : α) :
    Realises (Agent.setSpeed value : StateM (Bench α) _) (Agent.setSpeed value) :=
  plain fun c running => by rw [Course.after, if_pos running, Course.proceed, Course.sendPlain]

theorem resetPath :
    Realises (Agent.resetPath : StateM (Bench α) _) Agent.resetPath :=
  plain fun c running => by rw [Course.after, if_pos running, Course.proceed, Course.sendPlain]

theorem submit (kind : CommandKind α) :
    Realises (Agent.submit kind : StateM (Bench α) _) (Agent.submit kind) := by
  intro b c tidy same
  obtain ⟨d, submitted, tidy, world⟩ :=
    submitCommand ⟨b.supply b.supplied, kind⟩ { b with supplied := b.supplied + 1 } c tidy same
  exact ⟨d, ⟨_, _, submitted, rfl⟩, tidy, world⟩

/-- The session serves what has arrived; then, if need be, frames come. Somebody waits only for a
session that is still there. -/
theorem await (ticket : Nat) :
    Realises (Agent.await ticket : StateM (Bench α) _) (Agent.await ticket) := by
  intro b c tidy same
  obtain ⟨d, turns, tidy, world, running⟩ := tidy.serve
  have served : d.world = b.serve.world := by rw [world, same]; rfl
  have waited : ∃ e, c.Turns e ∧ e.Tidy ∧
      (b.await ticket).2.world = { e.world with receipts := e.world.receipts.take ticket } ∧
      e.world.receipts.reading? ticket = some (b.await ticket).1 := by
    unfold Bench.await
    dsimp only
    cases answer : b.serve.answer? ticket with
    | some result =>
      refine ⟨d, turns, tidy, ?_, ?_⟩
      · rw [served]
      · rw [served]
        exact answer
    | none =>
      have waits : d.world.receipts.reading? ticket = none := by rw [served]; exact answer
      have going : d.world.isRunning = true := by
        cases still : d.world.isRunning with
        | true => rfl
        | false =>
          exact absurd (Receipts.reading?_eq_none.1 waits)
            (tidy.sound.ended (of_decide_eq_false still) ticket)
      obtain ⟨e, further, tidy, world, read⟩ :=
        awaitFrames_turns b.serve.budget tidy served going answer
      exact ⟨e, turns.trans further, tidy, by rw [world], read⟩
  obtain ⟨e, turns, tidy, world, read⟩ := waited
  refine ⟨e.after (.take ticket), ⟨e, turns, read, rfl⟩, tidy.take ticket, ?_⟩
  rw [Course.after_take]
  exact world.symm

theorem snapshot : Realises (Agent.snapshot : StateM (Bench α) _) Agent.snapshot :=
  fun _ c tidy same => ⟨c, ⟨.refl c, by rw [same]; rfl⟩, tidy, same⟩

end Realises

end Bench

end PlanarArm
