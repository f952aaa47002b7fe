import PlanarArm.Proofs.Session.Course

/-!
# One answer for each submission

A submission is at one place at a time: its request waits in the inbox, or it has been taken in, or
it has been refused, or the session was killed before it was served. From this invariant
(`Course.Sound`), which is kept by everything that can happen in any order, it follows that no
ticket is answered twice, that each answer belongs to its very submission, and that nobody waits
once the session has gone (`answered_once`).
-/

namespace PlanarArm

variable {α : Type}

namespace Course

/-- The tickets of all submissions that have been served or are still to be. -/
def places (c : Course α) : List Nat :=
  c.journal.refusals.map Prod.fst ++ c.journal.tickets ++
    (submissions c.world.inbox.toList).map Prod.snd

/-- Each ticket is at one place, and what has come of it agrees with the answers. -/
structure Sound [Scalar α] (c : Course α) : Prop where
  quiet : c.journal.Quiet
  same : c.journal.session = c.world.session
  size_eq : c.world.receipts.cells.size = c.submitted.length
  placed : ∃ unserved, (c.places ++ unserved).Perm (List.range c.submitted.length) ∧
    (c.world.liveness ≠ .aborted → unserved = [])
  sent : ∀ x ∈ submissions c.world.inbox.toList, c.submitted[x.2]? = some x.1
  taken : c.journal.tickets.map (fun ticket => c.submitted[ticket]?) =
    c.journal.engine.accepted.map some
  refused : ∀ x ∈ c.journal.refusals, ∃ reason, x.2 = .invalidArgument reason
  follows : c.world.receipts.Follows (answers c.journal.effects)
  going : c.world.liveness = .running → c.world.receipts.Lacks .lost
  ended : c.world.liveness ≠ .running → c.world.receipts.Lacks .waiting

namespace Sound

variable [Scalar α] {c : Course α}

theorem start (m : ArmModel α) (speed maxStep : α) (reportCapacity : Nat) :
    (Course.start m speed maxStep reportCapacity).Sound where
  quiet := .start m speed maxStep
  same := rfl
  size_eq := rfl
  placed := ⟨[], .nil, fun _ => rfl⟩
  sent := nofun
  taken := rfl
  refused := nofun
  follows := ⟨nofun, nofun, nofun⟩
  going := fun _ => nofun
  ended := fun _ => nofun

theorem lt_of_mem_places (sound : c.Sound) {ticket : Nat} (mem : ticket ∈ c.places) :
    ticket < c.submitted.length := by
  obtain ⟨unserved, placed, -⟩ := sound.placed
  exact List.mem_range.1 (placed.mem_iff.1 (List.mem_append_left unserved mem))

theorem distinct (sound : c.Sound) :
    (c.journal.refusals.map Prod.fst ++ c.journal.tickets).Nodup := by
  obtain ⟨unserved, placed, -⟩ := sound.placed
  have all := placed.symm.nodup List.nodup_range
  rw [places, List.append_assoc _ _ unserved] at all
  exact all.of_append_left

/-- The session does one thing, for which it may take a request from the inbox. -/
theorem act {served rest : List (Request α)} {action : Action α} (sound : c.Sound)
    (running : c.world.liveness = .running) (inbox : c.world.inbox.toList = served ++ rest)
    (about : submissions served = action.submission?.toList) :
    (Course.act ⟨{ c.world with inbox := rest.toArray }, c.journal, c.submitted⟩ action).Sound := by
  have moved := World.act_eq { c.world with inbox := rest.toArray } action
  unfold Course.act
  dsimp only at moved ⊢
  generalize World.act _ action = w at moved ⊢
  obtain ⟨session, liveness, left, receipts⟩ := moved
  have books := sound.quiet.served action
  have parted : submissions c.world.inbox.toList =
      action.submission?.toList ++ submissions rest := by
    rw [inbox, ← about, submissions_append]
  have sent := sound.sent
  rw [parted] at sent
  obtain ⟨unserved, placed, none⟩ := sound.placed
  cases none (running ▸ nofun)
  obtain ⟨follows, going⟩ := sound.follows.answerAll (sound.going running)
    (answers (c.world.session.step action).2.toList)
  rw [← receipts] at follows going
  refine ⟨sound.quiet.after action, ?_, ?_, ⟨[], ?_, fun _ => rfl⟩, ?_,
    books.commands (fun x mem => sent x (List.mem_append_left _ mem)) sound.taken,
    books.invalid sound.refused, ?_, fun _ => going, fun gone => ?_⟩
  · dsimp only
    rw [session, ← sound.same]
    rfl
  · dsimp only
    rw [receipts, Receipts.size_answerAll]
    exact sound.size_eq
  · have same := books.places ((submissions rest).map Prod.snd)
    rw [← List.map_append, ← parted] at same
    rw [List.append_nil] at placed ⊢
    rw [places, left]
    exact same.trans placed
  · dsimp only
    rw [left]
    exact fun x mem => sent x (List.mem_append_right _ mem)
  · have given : answers (c.journal.after action).effects =
        answers c.journal.effects ++ answers (c.world.session.step action).2.toList := by
      rw [Journal.after, answers_append, sound.same]
    dsimp only
    rw [given]
    exact follows
  · exact absurd (liveness.trans running) gone

omit [Scalar α] in
theorem submissions_push (requests : Array (Request α)) (r : Request α) :
    submissions (requests.push r).toList =
      submissions requests.toList ++ r.submission?.toList := by
  rw [Array.toList_push, submissions_append, submissions_singleton]

/-- A request that submits nothing is sent, or anything else changes that nobody is asked about. -/
theorem of_same {w : World α} (sound : c.Sound) (session : w.session = c.world.session)
    (liveness : w.liveness = c.world.liveness) (receipts : w.receipts = c.world.receipts)
    (inbox : submissions w.inbox.toList = submissions c.world.inbox.toList) :
    Sound ⟨w, c.journal, c.submitted⟩ := by
  obtain ⟨quiet, same, size_eq, placed, sent, taken, refused, follows, going, ended⟩ := sound
  refine ⟨quiet, same.trans session.symm, ?_, ?_, ?_, taken, refused, ?_, ?_, ?_⟩
  · dsimp only
    rw [receipts]
    exact size_eq
  · rw [places] at placed ⊢
    dsimp only
    rw [inbox, liveness]
    exact placed
  · dsimp only
    rw [inbox]
    exact sent
  · dsimp only
    rw [receipts]
    exact follows
  · dsimp only
    rw [liveness, receipts]
    exact going
  · dsimp only
    rw [liveness, receipts]
    exact ended

theorem sendPlain {r : Request α} (sound : c.Sound) (other : r.submission? = none) :
    (c.sendPlain r).Sound := by
  refine sound.of_same rfl rfl rfl ?_
  rw [World.send, submissions_push, other]
  exact List.append_nil _

theorem sendAcknowledged {request : Nat → Request α} (sound : c.Sound)
    (other : ∀ ack, (request ack).submission? = none) : (c.sendAcknowledged request).Sound := by
  refine sound.of_same rfl rfl rfl ?_
  rw [World.send, submissions_push, other]
  exact List.append_nil _

/-- Nobody has answered a ticket that has not been handed out. -/
theorem fresh (sound : c.Sound) (result : CommandResult α) :
    (c.world.receipts.cells.size, result) ∉ answers c.journal.effects := by
  intro mem
  have known : c.world.receipts.cells.size ∈ c.places :=
    List.mem_append_left _ (sound.quiet.tally.origin_of_answer mem)
  have lt := sound.lt_of_mem_places known
  rw [sound.size_eq] at lt
  exact Nat.lt_irrefl _ lt

theorem submit (sound : c.Sound) (running : c.world.liveness = .running) (command : Command α) :
    (c.submit command).Sound := by
  obtain ⟨unserved, placed, none⟩ := sound.placed
  cases none (running ▸ nofun)
  rw [List.append_nil] at placed
  have pushed : submissions (c.submit command).world.inbox.toList =
      submissions c.world.inbox.toList ++ [(command, c.submitted.length)] := by
    rw [← sound.size_eq]
    exact submissions_push _ _
  have old {ticket : Nat} (known : ticket < c.submitted.length) :
      (c.submitted ++ [command])[ticket]? = c.submitted[ticket]? :=
    List.getElem?_append_left known
  refine ⟨sound.quiet, sound.same, ?_, ⟨[], ?_, fun _ => rfl⟩, ?_, ?_, sound.refused,
    sound.follows.issue sound.fresh, fun _ => (sound.going running).issue nofun, fun gone => ?_⟩
  · have size : (c.submit command).world.receipts.cells.size = c.world.receipts.cells.size + 1 :=
      Array.size_push _
    have length : (c.submit command).submitted.length = c.submitted.length + 1 :=
      List.length_append
    rw [size, length, sound.size_eq]
  · have length : (c.submit command).submitted.length = c.submitted.length + 1 :=
      List.length_append
    rw [List.append_nil, places, pushed, length, List.range_succ, List.map_append,
      ← List.append_assoc]
    exact placed.append_right _
  · rw [pushed]
    intro x mem
    rcases List.mem_append.1 mem with before | new
    · have found := sound.sent x before
      exact (old (List.getElem?_eq_some_iff.1 found).1).trans found
    · rw [List.mem_singleton.1 new]
      exact List.getElem?_concat_length
  · refine Eq.trans (List.map_congr_left fun ticket mem => ?_) sound.taken
    exact old (sound.lt_of_mem_places (List.mem_append_left _ (List.mem_append_right _ mem)))
  · exact absurd running gone

theorem close (sound : c.Sound) (ticket : Nat) {done : Receipt α}
    (finished : done = .taken ∨ done = .dropped) :
    (c.close ⟨c.world.receipts.cells.setIfInBounds ticket done⟩).Sound := by
  have kept {receipt : Receipt α} (other : receipt = .waiting ∨ receipt = .lost) :
      receipt ≠ done := by
    rcases finished with rfl | rfl <;> rcases other with rfl | rfl <;> exact nofun
  obtain ⟨quiet, same, size_eq, placed, sent, taken, refused, follows, going, ended⟩ := sound
  refine ⟨quiet, same, ?_, placed, sent, taken, refused, follows.close ticket finished,
    fun running => (going running).close (kept (.inr rfl)) ticket,
    fun gone => (ended gone).close (kept (.inl rfl)) ticket⟩
  exact Array.size_setIfInBounds.trans size_eq

theorem serve (sound : c.Sound) (running : c.world.liveness = .running) : c.serve.Sound := by
  unfold Course.serve
  split
  · exact sound
  · next r rest inbox =>
    have parted : c.world.inbox.toList = [r] ++ rest := inbox
    exact sound.act running parted (submissions_singleton r)

theorem frame (sound : c.Sound) (running : c.world.liveness = .running) (now : Nat) :
    (c.act (.frame now)).Sound := by
  have parted : c.world.inbox.toList = [] ++ c.world.inbox.toList := rfl
  exact sound.act running parted rfl

theorem abandon {w : World α} (sound : c.Sound) (session : w.session = c.world.session)
    (receipts : w.receipts = c.world.receipts.abandon) (gone : w.liveness ≠ .running)
    (placed : ∃ unserved, ((⟨w, c.journal, c.submitted⟩ : Course α).places ++ unserved).Perm
      (List.range c.submitted.length) ∧ (w.liveness ≠ .aborted → unserved = []))
    (sent : ∀ x ∈ submissions w.inbox.toList, c.submitted[x.2]? = some x.1) :
    Sound ⟨w, c.journal, c.submitted⟩ := by
  obtain ⟨follows, ended⟩ := sound.follows.abandon
  rw [← receipts] at follows ended
  refine ⟨sound.quiet, sound.same.trans session.symm, ?_, placed, sent, sound.taken,
    sound.refused, follows, fun running => absurd running gone, fun _ => ended⟩
  dsimp only
  rw [receipts]
  exact Array.size_map.trans sound.size_eq

theorem leave (sound : c.Sound) (running : c.world.liveness = .running) : c.leave.Sound := by
  unfold Course.leave
  split
  · next inbox =>
    have parted : c.world.inbox.toList = [] ++ [] := inbox
    have ended : Sound ⟨World.act { c.world with inbox := #[] } .finish,
        c.journal.after .finish, c.submitted⟩ :=
      @act _ _ c [] [] .finish sound running parted rfl
    have still : (World.act { c.world with inbox := #[] } .finish).liveness = .running :=
      (World.act_eq _ _).2.1.trans running
    rw [World.finish, World.serve_of_empty inbox]
    generalize @World.act α _ _ .finish = w at ended still ⊢
    obtain ⟨unserved, placed, none⟩ := ended.placed
    refine ended.abandon rfl rfl (fun runs => ?_) ⟨unserved, placed, fun _ => none ?_⟩ ended.sent
    · cases runs
    · dsimp only
      rw [still]
      decide
  · exact sound

theorem kill (sound : c.Sound) (running : c.world.liveness = .running) :
    Sound ⟨c.world.abort, c.journal, c.submitted⟩ := by
  obtain ⟨unserved, placed, none⟩ := sound.placed
  cases none (running ▸ nofun)
  rw [List.append_nil] at placed
  refine sound.abandon rfl rfl nofun ⟨(submissions c.world.inbox.toList).map Prod.snd, ?_, ?_⟩ nofun
  · have left : (⟨c.world.abort, c.journal, c.submitted⟩ : Course α).places =
        c.journal.refusals.map Prod.fst ++ c.journal.tickets := List.append_nil _
    rw [left]
    exact placed
  · exact fun other => absurd rfl other

theorem after (sound : c.Sound) (happening : Happening α) : (c.after happening).Sound := by
  unfold Course.after
  split
  · next going =>
    have running : c.world.liveness = .running := of_decide_eq_true going
    cases happening with
    | submit command => exact sound.submit running command
    | setSpeed value => exact sound.sendPlain rfl
    | resetPath => exact sound.sendPlain rfl
    | stop => exact sound.sendAcknowledged fun _ => rfl
    | hardReset => exact sound.sendAcknowledged fun _ => rfl
    | serve => exact sound.serve running
    | frame now => exact sound.frame running now
    | drop ticket => exact sound.close ticket (.inr rfl)
    | take ticket => exact sound.close ticket (.inl rfl)
    | leave => exact sound.leave running
    | kill => exact sound.kill running
  · cases happening with
    | drop ticket => exact sound.close ticket (.inr rfl)
    | take ticket => exact sound.close ticket (.inl rfl)
    | _ => exact sound

theorem further (sound : c.Sound) (happenings : List (Happening α)) :
    (c.run happenings).Sound := by
  induction happenings generalizing c with
  | nil => exact sound
  | cons happening rest ih => exact ih (sound.after happening)

theorem run (m : ArmModel α) (speed maxStep : α) (reportCapacity : Nat)
    (happenings : List (Happening α)) :
    ((Course.start m speed maxStep reportCapacity).run happenings).Sound :=
  (start m speed maxStep reportCapacity).further happenings

/-- A submission that was taken in under a number is the one with the ticket of that number. -/
theorem submitted_eq (sound : c.Sound) {n ticket : Nat}
    (found : c.journal.tickets[n]? = some ticket) :
    c.journal.engine.accepted[n]? = c.submitted[ticket]? := by
  have taken := congrArg (fun list => list[n]?) sound.taken
  rw [List.getElem?_map, List.getElem?_map, found, Option.map_some] at taken
  obtain ⟨command, accepted, same⟩ := Option.map_eq_some_iff.1 taken.symm
  rw [accepted, same]

end Sound

end Course

/-- Whatever happens around a session in whatever order: no ticket is answered twice. The answer of
a refused submission is that its argument is invalid. The answer of one that was taken in is the
result in the report on that very command, itself and not a numbered one. Nobody else is answered.
The holder of a ticket reads its answer; without one it waits, and once the session has gone it
reads that nobody is there. -/
theorem answered_once [Scalar α] (m : ArmModel α) (speed maxStep : α) (reportCapacity : Nat)
    (happenings : List (Happening α)) :
    let c := (Course.start m speed maxStep reportCapacity).run happenings
    let j := c.journal
    (j.session = c.world.session ∧ j.engine.simulator = c.world.session.simulator) ∧
      ((answers j.effects).map Prod.fst).Nodup ∧
      (∀ ticket e, (ticket, e) ∈ j.refusals → (∃ reason, e = .invalidArgument reason) ∧
        ∀ result, (ticket, result) ∈ answers j.effects ↔ result = .error e) ∧
      (∀ n ticket, j.tickets[n]? = some ticket →
        j.engine.accepted[n]? = c.submitted[ticket]? ∧
        ∀ result, (ticket, result) ∈ answers j.effects ↔
          ∃ i e, (i, e) ∈ record j.engine.accepted j.engine.emitted ∧
            (i.entry = n ∧ i.part = 0) ∧ e.id = i.origin.id ∧ e.result = result) ∧
      (∀ ticket result, (ticket, result) ∈ answers j.effects →
        ticket ∈ j.refusals.map Prod.fst ++ j.tickets) ∧
      (∀ ticket, c.world.receipts.IsHeld ticket →
        (∀ result, (ticket, result) ∈ answers j.effects →
          c.world.receipts.reading? ticket = some result) ∧
        ((∀ result, (ticket, result) ∉ answers j.effects) →
          c.world.receipts.reading? ticket =
            if c.world.isRunning then none else some (.error sessionGone))) ∧
      (c.world.isRunning = false → c.world.receipts.Lacks .waiting) := by
  intro c j
  have sound : c.Sound := .run m speed maxStep reportCapacity happenings
  have quiet := sound.quiet
  have distinct := sound.distinct
  have tally := quiet.tally
  refine ⟨⟨sound.same, ?_⟩, tally.answers_nodup distinct, ?_, ?_, ?_, ?_, ?_⟩
  · rw [← sound.same]
    exact quiet.same
  · intro ticket e refused
    exact ⟨sound.refused (ticket, e) refused, tally.answer_iff_of_refused distinct refused⟩
  · intro n ticket found
    refine ⟨sound.submitted_eq found, fun result => ?_⟩
    rw [tally.answer_iff_of_accepted distinct found, quiet.reports_eq]
    constructor
    · rintro ⟨i, e, mem, entry, own, given⟩
      have named := quiet.account.logged.id_of_record mem
      rw [Issue.id_of_isOwn (Issue.isOwn_iff.2 own)] at named
      exact ⟨i, e, mem, ⟨entry, own⟩, named.symm, given⟩
    · rintro ⟨i, e, mem, ⟨entry, own⟩, -, given⟩
      exact ⟨i, e, mem, entry, own, given⟩
  · exact fun ticket result mem => tally.origin_of_answer mem
  · intro ticket held
    have once := tally.answers_nodup distinct
    refine ⟨fun result mem => sound.follows.reading?_of_mem once held mem, fun none => ?_⟩
    rcases sound.follows.reading?_of_not_mem held none with ⟨waits, read⟩ | ⟨lost, read⟩
    · cases going : c.world.isRunning with
      | true => exact read
      | false => exact absurd waits (sound.ended (of_decide_eq_false going) ticket)
    · cases going : c.world.isRunning with
      | true => exact absurd lost (sound.going (of_decide_eq_true going) ticket)
      | false => exact read
  · intro gone
    exact sound.ended (of_decide_eq_false gone)

end PlanarArm
