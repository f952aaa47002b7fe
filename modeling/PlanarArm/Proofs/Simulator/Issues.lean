import PlanarArm.Command.Completion
import PlanarArm.Command.Line
import Mathlib.Data.List.Induction

/-!
# What accepted commands give rise to

An accepted command gives rise to itself and, when it is replaced, to the numbered commands that
take its place: its *issues*. The `n`-th report that a simulator makes is the one on the `n`-th
issue of the accepted commands, and whether that report says `expanded` decides whether the issue is
followed by numbered ones. So the list of issues is a function of the accepted commands and the
reports alone (`issues`), and so is the issue that each report is about (`record`) and what is still
to be reported (`outstanding`).

* `issues_snoc`: a further report is about the first outstanding issue and puts the numbered ones,
  if any, in its place.
* `outstanding_accept`: a further accepted command is outstanding behind all others.
* `Logged`: the reports carry the identifiers of their issues, and only a line is ever expanded.
-/

namespace PlanarArm

variable {α : Type}

/-- The report that a command was aborted. -/
def CompletionEvent.aborted (id : CommandId) : CompletionEvent α :=
  ⟨id, .error .stopped⟩

/-- Whether the report says that the command was replaced by numbered ones. -/
def CompletionEvent.isExpanded (e : CompletionEvent α) : Bool :=
  match e.result with
  | .ok c => c.note == some .expanded
  | .error _ => false

/-- The number of commands that a command is replaced by. -/
def Command.partCount (c : Command α) : Nat :=
  match c.kind with
  | .lineTo _ steps => lineCount steps
  | _ => 0

/-- A command that an accepted one gives rise to. -/
structure Issue (α : Type) where
  /-- The number of commands that were accepted before. -/
  entry : Nat
  /-- The accepted command. -/
  origin : Command α
  /-- Zero for the accepted command itself, and `k` for the `k`-th one that replaces it. -/
  part : Nat

/-- The identifier under which the end of the issue is reported. -/
def Issue.id (i : Issue α) : CommandId :=
  if i.part = 0 then i.origin.id else i.origin.id.sub i.part

/-- The numbered issues of a command. -/
def Command.parts (c : Command α) (entry : Nat) : List (Issue α) :=
  (List.range c.partCount).map fun k => ⟨entry, c, k + 1⟩

/-- All issues of a command, given whether it was replaced. -/
def Command.issues (c : Command α) (entry : Nat) (expanded : Bool) : List (Issue α) :=
  ⟨entry, c, 0⟩ :: if expanded then c.parts entry else []

/-- The issues of commands, the first of which is accepted under the number `entry`. The first
report is about the first command itself. -/
def issuesFrom (entry : Nat) : List (Command α) → List (CompletionEvent α) → List (Issue α)
  | [], _ => []
  | c :: rest, events =>
    let own := c.issues entry (events.head?.any CompletionEvent.isExpanded)
    own ++ issuesFrom (entry + 1) rest (events.drop own.length)

/-- The issues of all accepted commands, in the order in which they are reported on. -/
def issues (accepted : List (Command α)) (events : List (CompletionEvent α)) : List (Issue α) :=
  issuesFrom 0 accepted events

/-- The issues that the reports are about. -/
def reported (accepted : List (Command α)) (events : List (CompletionEvent α)) : List (Issue α) :=
  (issues accepted events).take events.length

/-- The reports, each with the issue that it is about. -/
def record (accepted : List (Command α)) (events : List (CompletionEvent α)) :
    List (Issue α × CompletionEvent α) :=
  (reported accepted events).zip events

/-- The issues that have not been reported on. -/
def outstanding (accepted : List (Command α)) (events : List (CompletionEvent α)) :
    List (Issue α) :=
  (issues accepted events).drop events.length

/-- The issues that a report on an issue puts in its place. -/
def Issue.followers (i : Issue α) (e : CompletionEvent α) : List (Issue α) :=
  if i.part = 0 ∧ e.isExpanded then i.origin.parts i.entry else []

theorem Command.part_ne_zero {c : Command α} {entry : Nat} {i : Issue α}
    (mem : i ∈ c.parts entry) : i.part ≠ 0 := by
  obtain ⟨k, -, rfl⟩ := List.mem_map.1 mem
  exact Nat.succ_ne_zero k

theorem Issue.followers_of_part {i : Issue α} (numbered : i.part ≠ 0) (e : CompletionEvent α) :
    i.followers e = [] :=
  if_neg fun own => numbered own.1

theorem Issue.followers_of_plain {e : CompletionEvent α} (plain : e.isExpanded = false)
    (i : Issue α) : i.followers e = [] :=
  if_neg fun own => Bool.false_ne_true (plain.symm.trans own.2)

theorem Command.length_issues_pos (c : Command α) (entry : Nat) (expanded : Bool) :
    0 < (c.issues entry expanded).length :=
  Nat.succ_pos _

theorem Command.issues_eq (c : Command α) (entry : Nat) (e : CompletionEvent α) :
    c.issues entry e.isExpanded = ⟨entry, c, 0⟩ :: Issue.followers ⟨entry, c, 0⟩ e := by
  simp [Command.issues, Issue.followers]

/-! ## One more report -/

theorem issuesFrom_cons_nil (entry : Nat) (c : Command α) (later : List (Command α)) :
    issuesFrom entry (c :: later) [] = ⟨entry, c, 0⟩ :: issuesFrom (entry + 1) later [] := by
  simp [issuesFrom, Command.issues]

/-- The first report decides which issues the first command has, and the rest is left to the
others. -/
theorem issuesFrom_cons_cons (entry : Nat) (c : Command α) (later : List (Command α))
    (first : CompletionEvent α) (events : List (CompletionEvent α)) :
    issuesFrom entry (c :: later) (first :: events) =
      c.issues entry first.isExpanded ++ issuesFrom (entry + 1) later
        ((first :: events).drop (c.issues entry first.isExpanded).length) := rfl

/-- An issue behind the first one of a block is a numbered one. -/
theorem part_ne_zero_of_drop {c : Command α} {entry n : Nat} {expanded : Bool} {i : Issue α}
    {tail rest : List (Issue α)} (inside : n + 1 < (c.issues entry expanded).length)
    (next : (c.issues entry expanded ++ tail).drop (n + 1) = i :: rest) : i.part ≠ 0 := by
  have mem : i ∈ (c.issues entry expanded).drop (n + 1) := by
    rw [List.drop_append_of_le_length (Nat.le_of_lt inside)] at next
    cases block : (c.issues entry expanded).drop (n + 1) with
    | nil => exact absurd (List.drop_eq_nil_iff.1 block) (Nat.not_le_of_lt inside)
    | cons j more =>
      rw [block] at next
      cases next
      exact List.mem_cons_self
  cases expanded with
  | false => simp [Command.issues] at inside
  | true => exact Command.part_ne_zero (List.mem_of_mem_drop mem)

theorem issuesFrom_snoc {entry : Nat} {accepted : List (Command α)}
    {events : List (CompletionEvent α)} {i : Issue α} {rest : List (Issue α)}
    (next : (issuesFrom entry accepted events).drop events.length = i :: rest)
    (e : CompletionEvent α) :
    issuesFrom entry accepted (events ++ [e]) =
      (issuesFrom entry accepted events).take events.length ++ i :: (i.followers e ++ rest) := by
  -- Each accepted command uses up the reports on its own issues, so the reports vary, too.
  induction accepted generalizing entry events with
  | nil => simp [issuesFrom] at next
  | cons c later ih =>
    cases events with
    | nil =>
      rw [issuesFrom_cons_nil] at next
      cases next
      have long := c.length_issues_pos entry e.isExpanded
      rw [List.nil_append, issuesFrom_cons_cons, List.drop_eq_nil_of_le long, c.issues_eq]
      rfl
    | cons first events =>
      rw [issuesFrom_cons_cons] at next ⊢
      rw [List.cons_append, issuesFrom_cons_cons, ← List.cons_append]
      generalize block : c.issues entry first.isExpanded = own at next ⊢
      by_cases fits : own.length ≤ (first :: events).length
      · -- The block is used up, and the report is about a later command.
        rw [List.drop_append, List.drop_eq_nil_of_le fits, List.nil_append,
          ← List.length_drop] at next
        rw [List.drop_append_of_le_length fits, ih next, List.take_append,
          List.take_of_length_le fits, ← List.length_drop, List.append_assoc]
      · -- The report falls inside the block and changes nothing.
        have within : events.length + 1 < own.length := Nat.lt_of_not_le fits
        have numbered : i.part ≠ 0 := by
          subst block
          exact part_ne_zero_of_drop within next
        have all : ((first :: events) ++ [e]).drop own.length = [] :=
          List.drop_eq_nil_of_le (by simp; omega)
        have used : (first :: events).drop own.length = [] :=
          List.drop_eq_nil_of_le (Nat.le_of_lt within)
        rw [used] at next ⊢
        rw [all, Issue.followers_of_part numbered, List.nil_append, ← next,
          List.take_append_drop]

theorem length_reported {accepted : List (Command α)} {events : List (CompletionEvent α)}
    {i : Issue α} {rest : List (Issue α)} (next : outstanding accepted events = i :: rest) :
    (reported accepted events).length = events.length := by
  refine List.length_take_of_le (Nat.le_of_not_lt fun short => ?_)
  rw [outstanding, List.drop_eq_nil_of_le (Nat.le_of_lt short)] at next
  cases next

/-- A further report is about the first outstanding issue, and the numbered ones, if any, follow. -/
theorem issues_snoc {accepted : List (Command α)} {events : List (CompletionEvent α)} {i : Issue α}
    {rest : List (Issue α)} (next : outstanding accepted events = i :: rest)
    (e : CompletionEvent α) :
    issues accepted (events ++ [e]) =
      (reported accepted events ++ [i]) ++ (i.followers e ++ rest) :=
  (issuesFrom_snoc next e).trans (List.append_cons ..)

theorem reported_snoc {accepted : List (Command α)} {events : List (CompletionEvent α)}
    {i : Issue α} {rest : List (Issue α)} (next : outstanding accepted events = i :: rest)
    (e : CompletionEvent α) :
    reported accepted (events ++ [e]) = reported accepted events ++ [i] := by
  rw [reported, issues_snoc next]
  exact List.take_left' (by simp [length_reported next])

theorem outstanding_snoc {accepted : List (Command α)} {events : List (CompletionEvent α)}
    {i : Issue α} {rest : List (Issue α)} (next : outstanding accepted events = i :: rest)
    (e : CompletionEvent α) :
    outstanding accepted (events ++ [e]) = i.followers e ++ rest := by
  rw [outstanding, issues_snoc next]
  exact List.drop_left' (by simp [length_reported next])

/-- The reports that were there stay with the issues that they were about. -/
theorem record_snoc {accepted : List (Command α)} {events : List (CompletionEvent α)}
    {i : Issue α} {rest : List (Issue α)} (next : outstanding accepted events = i :: rest)
    (e : CompletionEvent α) :
    record accepted (events ++ [e]) = record accepted events ++ [(i, e)] := by
  rw [record, reported_snoc next, List.zip_append (length_reported next)]
  rfl

theorem map_fst_record (accepted : List (Command α)) (events : List (CompletionEvent α)) :
    (record accepted events).map Prod.fst = reported accepted events :=
  List.map_fst_zip (List.length_take_le _ _)

/-! ## One more accepted command -/

theorem issuesFrom_accept {entry : Nat} {accepted : List (Command α)}
    {events : List (CompletionEvent α)}
    (long : events.length ≤ (issuesFrom entry accepted events).length) (c : Command α) :
    issuesFrom entry (accepted ++ [c]) events =
      issuesFrom entry accepted events ++ [⟨entry + accepted.length, c, 0⟩] := by
  induction accepted generalizing entry events with
  | nil =>
    cases List.eq_nil_of_length_eq_zero (Nat.le_zero.1 long)
    simp [issuesFrom, Command.issues]
  | cons d later ih =>
    have entries : entry + 1 + later.length = entry + (d :: later).length := by
      simp [Nat.add_assoc, Nat.add_comm 1]
    rw [issuesFrom, List.length_append] at long
    rw [List.cons_append, issuesFrom, issuesFrom, ih, List.append_assoc, entries]
    rw [List.length_drop]
    omega

theorem issues_accept {accepted : List (Command α)} {events : List (CompletionEvent α)}
    (long : events.length ≤ (issues accepted events).length) (c : Command α) :
    issues (accepted ++ [c]) events = issues accepted events ++ [⟨accepted.length, c, 0⟩] := by
  rw [issues, issuesFrom_accept long, Nat.zero_add]
  rfl

/-- A further accepted command is outstanding behind all others. -/
theorem outstanding_accept {accepted : List (Command α)} {events : List (CompletionEvent α)}
    (long : events.length ≤ (issues accepted events).length) (c : Command α) :
    outstanding (accepted ++ [c]) events =
      outstanding accepted events ++ [⟨accepted.length, c, 0⟩] := by
  rw [outstanding, issues_accept long, List.drop_append_of_le_length long]
  rfl

theorem record_accept {accepted : List (Command α)} {events : List (CompletionEvent α)}
    (long : events.length ≤ (issues accepted events).length) (c : Command α) :
    record (accepted ++ [c]) events = record accepted events := by
  rw [record, reported, issues_accept long, List.take_append_of_le_length long]
  rfl

/-! ## Reports that name their issues -/

/-- The reports carry the identifiers of their issues, one after the other, and those that say that
the command was replaced are about lines. -/
inductive Logged (accepted : List (Command α)) : List (CompletionEvent α) → Prop
  | nil : Logged accepted []
  | snoc {events : List (CompletionEvent α)} {e : CompletionEvent α} {i : Issue α}
      {rest : List (Issue α)} (before : Logged accepted events)
      (next : outstanding accepted events = i :: rest) (named : i.id = e.id)
      (line : e.isExpanded = true →
        i.part = 0 ∧ ∃ target steps, i.origin.kind = .lineTo target steps) :
      Logged accepted (events ++ [e])

namespace Logged

variable {accepted : List (Command α)} {events : List (CompletionEvent α)}

theorem length_le (logged : Logged accepted events) :
    events.length ≤ (issues accepted events).length := by
  induction logged with
  | nil => exact Nat.zero_le _
  | snoc before next named line ih =>
    rw [issues_snoc next, List.length_append, List.length_append, List.length_append,
      length_reported next]
    exact Nat.le_add_right _ _

theorem accept (logged : Logged accepted events) (c : Command α) :
    Logged (accepted ++ [c]) events := by
  induction logged with
  | nil => exact .nil
  | snoc before next named line ih =>
    have later := outstanding_accept before.length_le c
    rw [next, List.cons_append] at later
    exact .snoc ih later named line

/-- Reports that abort all outstanding issues, in order, leave none. -/
theorem abort {left : List (Issue α)} (logged : Logged accepted events)
    (next : outstanding accepted events = left) :
    Logged accepted (events ++ (left.map Issue.id).map CompletionEvent.aborted) ∧
      outstanding accepted (events ++ (left.map Issue.id).map CompletionEvent.aborted) = [] := by
  induction left generalizing events with
  | nil =>
    rw [List.map_nil, List.map_nil, List.append_nil]
    exact ⟨logged, next⟩
  | cons i rest ih =>
    have further : Logged accepted (events ++ [.aborted i.id]) := .snoc logged next rfl nofun
    have left := outstanding_snoc next (.aborted i.id)
    rw [Issue.followers_of_plain rfl, List.nil_append] at left
    rw [List.map_cons, List.map_cons, List.append_cons]
    exact ih further left

theorem of_snoc {e : CompletionEvent α} (logged : Logged accepted (events ++ [e])) :
    Logged accepted events ∧ ∃ i rest, outstanding accepted events = i :: rest ∧ i.id = e.id ∧
      (e.isExpanded = true →
        i.part = 0 ∧ ∃ target steps, i.origin.kind = .lineTo target steps) := by
  generalize whole : events ++ [e] = all at logged
  cases logged with
  | nil => simp at whole
  | snoc before next named line =>
    obtain ⟨rfl, same⟩ := List.append_inj' whole rfl
    cases same
    exact ⟨before, _, _, next, named, line⟩

/-- What has been reported so far was in order before the later reports, too. -/
theorem of_append {later : List (CompletionEvent α)} (logged : Logged accepted (events ++ later)) :
    Logged accepted events := by
  induction later using List.reverseRecOn with
  | nil => rwa [List.append_nil] at logged
  | append_singleton later e ih =>
    rw [← List.append_assoc] at logged
    exact ih logged.of_snoc.1

theorem reported_ids (logged : Logged accepted events) :
    (reported accepted events).map Issue.id = events.map CompletionEvent.id := by
  induction logged with
  | nil => rfl
  | snoc before next named line ih =>
    rw [reported_snoc next, List.map_append, List.map_append, ih, List.map_singleton, named]
    rfl

/-- The identifiers of the reports, and then those of the outstanding issues, are the identifiers
of all issues. -/
theorem ids_eq (logged : Logged accepted events) :
    events.map CompletionEvent.id ++ (outstanding accepted events).map Issue.id =
      (issues accepted events).map Issue.id := by
  rw [← logged.reported_ids, ← List.map_append, reported, outstanding, List.take_append_drop]

/-- A report carries the identifier of the issue that it is about. -/
theorem id_of_record (logged : Logged accepted events) {i : Issue α} {e : CompletionEvent α}
    (mem : (i, e) ∈ record accepted events) : i.id = e.id := by
  induction logged with
  | nil => cases mem
  | snoc before next named line ih =>
    rw [record_snoc next, List.mem_append, List.mem_singleton] at mem
    rcases mem with old | new
    · exact ih old
    · cases new
      exact named

theorem line_of_expanded (logged : Logged accepted events) {i : Issue α} {e : CompletionEvent α}
    (mem : (i, e) ∈ record accepted events) (expanded : e.isExpanded = true) :
    i.part = 0 ∧ ∃ target steps, i.origin.kind = .lineTo target steps := by
  induction logged with
  | nil => cases mem
  | snoc before next named line ih =>
    rw [record_snoc next, List.mem_append, List.mem_singleton] at mem
    rcases mem with old | new
    · exact ih old
    · cases new
      exact line expanded

end Logged

end PlanarArm
