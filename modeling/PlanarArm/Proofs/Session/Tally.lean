import Mathlib.Data.List.GetD
import PlanarArm.Proofs.Session.Journal
import PlanarArm.Proofs.Simulator.Order
import PlanarArm.Proofs.Simulator.Outstanding

/-!
# The tally of a session

A report settles the ticket of the accepted command that it is about, and no other. The invariant is
`Tally`: the tickets that wait are those of the accepted commands that are outstanding, and the
answers are the refusals and the results in the reports on accepted commands, each for the ticket of
that very command. It is stated for the reports that have been given out so far, and so it holds
between any two of them (`Tally.deliver`).
-/

namespace PlanarArm

variable {α : Type}

/-! ## Who waits and who has been answered -/

/-- The accepted commands that are outstanding. -/
def waiting (accepted : List (Command α)) (events : List (CompletionEvent α)) : List (Issue α) :=
  (outstanding accepted events).filter Issue.isOwn

/-- The reports on accepted commands. -/
def settled (accepted : List (Command α)) (events : List (CompletionEvent α)) :
    List (Issue α × CompletionEvent α) :=
  (record accepted events).filter fun x => x.1.isOwn

/-- The slot of a command that waits under its ticket. -/
def slot (tickets : List Nat) (i : Issue α) : CommandId × Nat :=
  (i.origin.id, tickets.getD i.entry 0)

/-- The answer that a report on a command is to its ticket. -/
def reply (tickets : List Nat) (x : Issue α × CompletionEvent α) : Nat × CommandResult α :=
  (tickets.getD x.1.entry 0, x.2.result)

/-- The answer that a refusal is. -/
def refusalReply (x : Nat × ArmError α) : Nat × CommandResult α :=
  (x.1, .error x.2)

section Snoc

variable {accepted : List (Command α)} {events : List (CompletionEvent α)} {i : Issue α}
  {rest : List (Issue α)}

theorem waiting_of_own (next : outstanding accepted events = i :: rest) (own : i.isOwn = true) :
    waiting accepted events = i :: rest.filter Issue.isOwn := by
  rw [waiting, next, List.filter_cons_of_pos own]

theorem waiting_of_part (next : outstanding accepted events = i :: rest) (numbered : i.part ≠ 0) :
    waiting accepted events = rest.filter Issue.isOwn := by
  rw [waiting, next, List.filter_cons_of_neg]
  rw [Issue.isOwn_eq_false numbered]
  exact Bool.false_ne_true

theorem waiting_snoc (next : outstanding accepted events = i :: rest) (e : CompletionEvent α) :
    waiting accepted (events ++ [e]) = rest.filter Issue.isOwn := by
  rw [waiting, outstanding_snoc next, List.filter_append, Issue.filter_followers, List.nil_append]

theorem settled_of_own (next : outstanding accepted events = i :: rest) (own : i.isOwn = true)
    (e : CompletionEvent α) :
    settled accepted (events ++ [e]) = settled accepted events ++ [(i, e)] := by
  rw [settled, record_snoc next, List.filter_append]
  exact congrArg _ (List.filter_cons_of_pos own)

theorem settled_of_part (next : outstanding accepted events = i :: rest) (numbered : i.part ≠ 0)
    (e : CompletionEvent α) : settled accepted (events ++ [e]) = settled accepted events := by
  have drop : List.filter (fun x : Issue α × CompletionEvent α => x.1.isOwn) [(i, e)] = [] := by
    refine List.filter_cons_of_neg ?_
    rw [Issue.isOwn_eq_false numbered]
    exact Bool.false_ne_true
  rw [settled, record_snoc next, List.filter_append, drop, List.append_nil]
  rfl

theorem waiting_accept (long : events.length ≤ (issues accepted events).length) (c : Command α) :
    waiting (accepted ++ [c]) events = waiting accepted events ++ [⟨accepted.length, c, 0⟩] := by
  rw [waiting, outstanding_accept long, List.filter_append]
  rfl

theorem settled_accept (long : events.length ≤ (issues accepted events).length) (c : Command α) :
    settled (accepted ++ [c]) events = settled accepted events := by
  rw [settled, record_accept long, settled]

theorem entry_lt_of_waiting (mem : i ∈ waiting accepted events) : i.entry < accepted.length := by
  obtain ⟨left, own⟩ := List.mem_filter.1 mem
  have found := getElem?_of_isOwn (List.mem_of_mem_drop left) own
  exact (List.getElem?_eq_some_iff.1 found).1

theorem entry_lt_of_settled {e : CompletionEvent α} (mem : (i, e) ∈ settled accepted events) :
    i.entry < accepted.length := by
  obtain ⟨about, own⟩ := List.mem_filter.1 mem
  have found := getElem?_of_isOwn (List.mem_of_mem_take (List.of_mem_zip about).1) own
  exact (List.getElem?_eq_some_iff.1 found).1

end Snoc

/-! ## The tally -/

/-- The tickets that wait are those of the accepted commands that are outstanding, and the answers
are the refusals and the results of the others. -/
structure Tally (accepted : List (Command α)) (tickets : List Nat)
    (refusals : List (Nat × ArmError α)) (table : Correlation) (effects : List (Effect α)) :
    Prop where
  logged : Logged accepted (reports effects)
  length_eq : tickets.length = accepted.length
  slots : table.slots.Perm ((waiting accepted (reports effects)).map (slot tickets))
  answered : (answers effects).Perm
    (refusals.map refusalReply ++ (settled accepted (reports effects)).map (reply tickets))
  keys : table.keys.Nodup
  plain : ∀ id ∈ table.keys, id.isSub = false

namespace Tally

variable {accepted : List (Command α)} {tickets : List Nat} {refusals : List (Nat × ArmError α)}
  {table : Correlation} {effects : List (Effect α)}

theorem note (tally : Tally accepted tickets refusals table effects) {new : List (Effect α)}
    (silent : answers new = []) (still : reports new = []) :
    Tally accepted tickets refusals table (effects ++ new) := by
  obtain ⟨logged, length_eq, slots, answered, keys, plain⟩ := tally
  have told : reports (effects ++ new) = reports effects := by
    rw [reports_append, still, List.append_nil]
  refine ⟨?_, length_eq, ?_, ?_, keys, plain⟩
  · rw [told]
    exact logged
  · rw [told]
    exact slots
  · rw [told, answers_append, silent, List.append_nil]
    exact answered

theorem reports_deliver (table : Correlation) (e : CompletionEvent α) :
    reports (Session.deliver table e).2 = [e] := by
  unfold Session.deliver
  split <;> rfl

/-- Giving out a report settles the ticket of the accepted command that it is about. -/
theorem deliver (tally : Tally accepted tickets refusals table effects) {e : CompletionEvent α}
    (logged : Logged accepted (reports effects ++ [e])) :
    Tally accepted tickets refusals (Session.deliver table e).1
      (effects ++ (Session.deliver table e).2) := by
  obtain ⟨-, i, rest, next, named, -⟩ := logged.of_snoc
  obtain ⟨-, length_eq, slots, answered, keys, plain⟩ := tally
  have told : reports (effects ++ (Session.deliver table e).2) = reports effects ++ [e] := by
    rw [reports_append, reports_deliver]
  by_cases own : i.isOwn = true
  · -- Its slot is the first one of those that the tally wants, so it is there and is taken out.
    rw [waiting_of_own next own, List.map_cons] at slots
    obtain ⟨found, erased⟩ := Correlation.erase_of_perm keys slots
    have delivered : Session.deliver table e = (table.erase i.origin.id,
        [.answered (tickets.getD i.entry 0) e.result, .broadcast e]) := by
      rw [Session.deliver, ← named, Issue.id_of_isOwn own, found]
    have sublist := table.keys_erase_sublist i.origin.id
    refine ⟨told ▸ logged, length_eq, ?_, ?_, ?_, ?_⟩
    · rw [told, waiting_snoc next, delivered]
      exact erased
    · rw [told, settled_of_own next own, delivered, answers_append, List.map_append,
        ← List.append_assoc]
      exact answered.append_right _
    · rw [delivered]
      exact keys.sublist sublist
    · rw [delivered]
      exact fun id mem => plain id (sublist.subset mem)
  · -- Nobody waits under the identifier of a numbered command, so nobody is answered.
    have numbered : i.part ≠ 0 := fun part => own (Issue.isOwn_iff.2 part)
    have absent : e.id ∉ table.keys := by
      intro mem
      have sub := Issue.isSub_of_part numbered
      rw [named, plain e.id mem] at sub
      cases sub
    have delivered : Session.deliver table e = (table, [.broadcast e]) := by
      rw [Session.deliver, Correlation.find?_of_not_mem absent]
    rw [waiting_of_part next numbered] at slots
    refine ⟨told ▸ logged, length_eq, ?_, ?_, ?_, ?_⟩
    · rw [told, waiting_snoc next, delivered]
      exact slots
    · rw [told, settled_of_part next numbered, delivered, answers_append]
      have silent : answers [Effect.broadcast e] = [] := rfl
      rw [silent, List.append_nil]
      exact answered
    · rw [delivered]
      exact keys
    · rw [delivered]
      exact plain

/-- Giving out reports settles the tickets of the accepted commands that they are about. -/
theorem deliverAll {acc : Array (Effect α)} {events : List (CompletionEvent α)}
    (tally : Tally accepted tickets refusals table (effects ++ acc.toList))
    (logged : Logged accepted (reports (effects ++ acc.toList) ++ events)) :
    Tally accepted tickets refusals (Session.deliverAll table acc events).1
        (effects ++ (Session.deliverAll table acc events).2.toList) ∧
      reports (effects ++ (Session.deliverAll table acc events).2.toList) =
        reports (effects ++ acc.toList) ++ events := by
  induction events generalizing table acc with
  | nil => exact ⟨tally, (List.append_nil _).symm⟩
  | cons e rest ih =>
    rw [List.append_cons] at logged ⊢
    have further := tally.deliver logged.of_append
    have together : effects ++ acc.toList ++ (Session.deliver table e).2 =
        effects ++ (acc ++ (Session.deliver table e).2).toList := by simp
    have told : reports (effects ++ (acc ++ (Session.deliver table e).2).toList) =
        reports (effects ++ acc.toList) ++ [e] := by
      rw [← together, reports_append _ (Session.deliver table e).2, reports_deliver]
    rw [together] at further
    rw [← told] at logged ⊢
    exact ih further logged

theorem slot_append {i : Issue α} (known : i.entry < tickets.length) (ticket : Nat) :
    slot (tickets ++ [ticket]) i = slot tickets i := by
  rw [slot, slot, List.getD_append _ _ _ _ known]

theorem reply_append {x : Issue α × CompletionEvent α} (known : x.1.entry < tickets.length)
    (ticket : Nat) : reply (tickets ++ [ticket]) x = reply tickets x := by
  rw [reply, reply, List.getD_append _ _ _ _ known]

theorem accept (tally : Tally accepted tickets refusals table effects) {c : Command α}
    (allowed : table.refusal? (α := α) c.id = none) (ticket : Nat) :
    Tally (accepted ++ [c]) (tickets ++ [ticket]) refusals (table.insert c.id ticket) effects := by
  obtain ⟨logged, length_eq, slots, answered, keys, plain⟩ := tally
  obtain ⟨form, absent⟩ := Correlation.new_of_not_refused allowed
  refine ⟨logged.accept c, ?_, ?_, ?_, ?_, ?_⟩
  · rw [List.length_append, List.length_append, length_eq]
    rfl
  · have old : (waiting accepted (reports effects)).map (slot (tickets ++ [ticket])) =
        (waiting accepted (reports effects)).map (slot tickets) :=
      List.map_congr_left fun i mem => slot_append (length_eq ▸ entry_lt_of_waiting mem) ticket
    have new : slot (tickets ++ [ticket]) ⟨accepted.length, c, 0⟩ = (c.id, ticket) := by
      rw [slot, ← length_eq]
      simp
    rw [waiting_accept logged.length_le, List.map_append, old, List.map_singleton, new]
    exact (slots.cons (c.id, ticket)).trans (List.perm_append_singleton _ _).symm
  · have old : (settled accepted (reports effects)).map (reply (tickets ++ [ticket])) =
        (settled accepted (reports effects)).map (reply tickets) :=
      List.map_congr_left fun x mem => reply_append (length_eq ▸ entry_lt_of_settled mem) ticket
    rw [settled_accept logged.length_le, old]
    exact answered
  · exact List.nodup_cons.2 ⟨absent, keys⟩
  · intro id mem
    rcases List.mem_cons.1 mem with rfl | before
    · exact form
    · exact plain id before

theorem refuse (tally : Tally accepted tickets refusals table effects) (x : Nat × ArmError α) :
    Tally accepted tickets (refusals ++ [x]) table (effects ++ [.answered x.1 (.error x.2)]) := by
  obtain ⟨logged, length_eq, slots, answered, keys, plain⟩ := tally
  have told : reports (effects ++ [.answered x.1 (.error x.2)]) = reports effects := by
    rw [reports_append]
    exact List.append_nil _
  refine ⟨told ▸ logged, length_eq, told ▸ slots, ?_, keys, plain⟩
  have new : answers [Effect.answered x.1 (.error x.2)] = [refusalReply x] := rfl
  rw [told, answers_append, new, List.map_append, List.map_singleton, List.append_assoc]
  refine (answered.append_right _).trans ?_
  rw [List.append_assoc]
  exact List.perm_append_comm.append_left _

end Tally

end PlanarArm
