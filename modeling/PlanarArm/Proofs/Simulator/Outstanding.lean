import Mathlib.Data.List.Nodup
import PlanarArm.Proofs.Command.SubId
import PlanarArm.Proofs.Simulator.Issues

/-!
# The commands that are outstanding

An accepted command is an issue of its own (`Issue.isOwn`), exactly one (`own_issues`). Since a line
is replaced when its turn comes, numbered issues are outstanding only at the front, and only those
of one line (`Logged.fronted`). So the outstanding issues have different identifiers as soon as the
accepted commands among them have (`Fronted.ids_nodup`).
-/

namespace PlanarArm

variable {α : Type}

/-! ## Accepted commands among the issues -/

/-- Whether the issue is the accepted command itself. -/
def Issue.isOwn (i : Issue α) : Bool :=
  i.part == 0

theorem Issue.isOwn_iff {i : Issue α} : i.isOwn = true ↔ i.part = 0 :=
  beq_iff_eq

theorem Issue.isOwn_eq_false {i : Issue α} (numbered : i.part ≠ 0) : i.isOwn = false :=
  beq_eq_false_iff_ne.2 numbered

theorem Issue.id_of_isOwn {i : Issue α} (own : i.isOwn = true) : i.id = i.origin.id :=
  if_pos (Issue.isOwn_iff.1 own)

theorem Issue.isSub_of_part {i : Issue α} (numbered : i.part ≠ 0) : i.id.isSub = true := by
  rw [Issue.id, if_neg numbered]
  exact CommandId.isSub_sub _ _

theorem Command.filter_parts (c : Command α) (entry : Nat) :
    (c.parts entry).filter Issue.isOwn = [] := by
  rw [List.filter_eq_nil_iff]
  intro i mem own
  exact Command.part_ne_zero mem (Issue.isOwn_iff.1 own)

theorem Command.filter_issues (c : Command α) (entry : Nat) (expanded : Bool) :
    (c.issues entry expanded).filter Issue.isOwn = [⟨entry, c, 0⟩] := by
  have own : Issue.isOwn ⟨entry, c, 0⟩ = true := rfl
  rw [Command.issues, List.filter_cons_of_pos own]
  cases expanded with
  | false => rfl
  | true =>
    rw [if_pos rfl, Command.filter_parts]

theorem own_issuesFrom (entry : Nat) (accepted : List (Command α))
    (events : List (CompletionEvent α)) :
    (issuesFrom entry accepted events).filter Issue.isOwn =
      (accepted.zipIdx entry).map fun x => ⟨x.2, x.1, 0⟩ := by
  induction accepted generalizing entry events with
  | nil => rfl
  | cons c later ih =>
    rw [issuesFrom, List.filter_append, Command.filter_issues, ih]
    rfl

/-- Each accepted command is an issue of its own exactly once. -/
theorem own_issues (accepted : List (Command α)) (events : List (CompletionEvent α)) :
    (issues accepted events).filter Issue.isOwn = accepted.zipIdx.map fun x => ⟨x.2, x.1, 0⟩ :=
  own_issuesFrom 0 accepted events

theorem entries_own_issues (accepted : List (Command α)) (events : List (CompletionEvent α)) :
    ((issues accepted events).filter Issue.isOwn).map Issue.entry =
      List.range accepted.length := by
  rw [own_issues, List.map_map, List.range_eq_range', ← List.zipIdx_map_snd]
  rfl

theorem getElem?_of_isOwn {accepted : List (Command α)} {events : List (CompletionEvent α)}
    {i : Issue α} (mem : i ∈ issues accepted events) (own : i.isOwn = true) :
    accepted[i.entry]? = some i.origin := by
  have found : i ∈ (issues accepted events).filter Issue.isOwn := List.mem_filter.2 ⟨mem, own⟩
  rw [own_issues] at found
  obtain ⟨⟨c, n⟩, place, rfl⟩ := List.mem_map.1 found
  exact List.mem_zipIdx_iff_getElem?.1 place

theorem Issue.filter_followers (i : Issue α) (e : CompletionEvent α) :
    (i.followers e).filter Issue.isOwn = [] := by
  rw [Issue.followers]
  split
  · exact Command.filter_parts _ _
  · rfl

/-- An accepted command is outstanding as long as no report is about it. -/
theorem mem_outstanding_iff {accepted : List (Command α)} {events : List (CompletionEvent α)}
    {i : Issue α} (mem : i ∈ issues accepted events) (own : i.isOwn = true) :
    i ∈ outstanding accepted events ↔ ∀ e, (i, e) ∉ record accepted events := by
  constructor
  · intro left e told
    have about : i ∈ reported accepted events := by
      rw [← map_fst_record]
      exact List.mem_map_of_mem told
    have entries := entries_own_issues accepted events
    rw [← List.take_append_drop events.length (issues accepted events), List.filter_append,
      List.map_append] at entries
    have distinct := entries.symm ▸ List.nodup_range
    obtain ⟨-, -, apart⟩ := List.nodup_append.1 distinct
    have early := List.mem_map_of_mem (f := Issue.entry) (List.mem_filter.2 ⟨about, own⟩)
    have late := List.mem_map_of_mem (f := Issue.entry) (List.mem_filter.2 ⟨left, own⟩)
    exact apart _ early _ late rfl
  · intro none
    rw [← List.take_append_drop events.length (issues accepted events), List.mem_append] at mem
    rcases mem with early | left
    · have about : i ∈ (record accepted events).map Prod.fst := by
        rw [map_fst_record]
        exact early
      obtain ⟨⟨_, e⟩, told, rfl⟩ := List.mem_map.1 about
      exact absurd told (none e)
    · exact left

theorem mem_issues_of_accepted {accepted : List (Command α)} {n : Nat} {c : Command α}
    (found : accepted[n]? = some c) (events : List (CompletionEvent α)) :
    (⟨n, c, 0⟩ : Issue α) ∈ issues accepted events := by
  have own : (⟨n, c, 0⟩ : Issue α) ∈ (issues accepted events).filter Issue.isOwn := by
    rw [own_issues]
    exact List.mem_map.2 ⟨(c, n), List.mem_zipIdx_iff_getElem?.2 found, rfl⟩
  exact (List.mem_filter.1 own).1

/-! ## Numbered issues at the front -/

/-- Numbered issues with different identifiers come first, and accepted commands follow. -/
def Fronted (left : List (Issue α)) : Prop :=
  ∃ front own : List (Issue α), left = front ++ own ∧ (∀ i ∈ front, i.part ≠ 0) ∧
    (front.map Issue.id).Nodup ∧ ∀ i ∈ own, i.isOwn = true

theorem isOwn_of_mem_nil {entry : Nat} {accepted : List (Command α)} {i : Issue α}
    (mem : i ∈ issuesFrom entry accepted []) : i.isOwn = true := by
  induction accepted generalizing entry with
  | nil => cases mem
  | cons c later ih =>
    rw [issuesFrom_cons_nil, List.mem_cons] at mem
    rcases mem with rfl | mem
    · rfl
    · exact ih mem

theorem Command.parts_ids_nodup (c : Command α) (entry : Nat) :
    ((c.parts entry).map Issue.id).Nodup := by
  have ids : (c.parts entry).map Issue.id =
      (List.range c.partCount).map fun k => c.id.sub (k + 1) := by
    rw [Command.parts, List.map_map]
    rfl
  rw [ids]
  refine List.Nodup.map (fun i j same => ?_) List.nodup_range
  have numbers : i + 1 = j + 1 := CommandId.sub_injective c.id same
  omega

/-- What a report puts in the place of its issue are numbered issues with different identifiers. -/
theorem Issue.followers_numbered (i : Issue α) (e : CompletionEvent α) :
    (∀ j ∈ i.followers e, j.part ≠ 0) ∧ ((i.followers e).map Issue.id).Nodup := by
  rw [Issue.followers]
  split
  · exact ⟨fun j mem => Command.part_ne_zero mem, i.origin.parts_ids_nodup i.entry⟩
  · exact ⟨fun j mem => absurd mem List.not_mem_nil, .nil⟩

/-- A report on the first issue leaves numbered issues at the front only. -/
theorem Fronted.snoc {i : Issue α} {rest : List (Issue α)} (fronted : Fronted (i :: rest))
    (e : CompletionEvent α) : Fronted (i.followers e ++ rest) := by
  obtain ⟨front, own, parted, numbered, ids, owned⟩ := fronted
  cases front with
  | nil =>
    rw [List.nil_append] at parted
    subst parted
    obtain ⟨numbered, ids⟩ := i.followers_numbered e
    exact ⟨i.followers e, rest, rfl, numbered, ids, fun j mem => owned j (.tail i mem)⟩
  | cons j more =>
    cases parted
    rw [Issue.followers_of_part (numbered i List.mem_cons_self)]
    exact ⟨more, own, rfl, fun j mem => numbered j (.tail i mem), ids.of_cons, owned⟩

theorem Logged.fronted {accepted : List (Command α)} {events : List (CompletionEvent α)}
    (logged : Logged accepted events) : Fronted (outstanding accepted events) := by
  induction logged with
  | nil => exact ⟨[], outstanding accepted [], rfl, nofun, .nil, fun i => isOwn_of_mem_nil⟩
  | snoc before next named line ih =>
    rw [outstanding_snoc next]
    rw [next] at ih
    exact ih.snoc _

/-- Outstanding issues have different identifiers if the accepted commands among them have, and if
none of those has the identifier of a numbered command. -/
theorem Fronted.ids_nodup {left : List (Issue α)} (fronted : Fronted left)
    (keys : ((left.filter Issue.isOwn).map fun i => i.origin.id).Nodup)
    (plain : ∀ i ∈ left.filter Issue.isOwn, i.origin.id.isSub = false) :
    (left.map Issue.id).Nodup := by
  obtain ⟨front, own, rfl, numbered, ids, owned⟩ := fronted
  have drop : front.filter Issue.isOwn = [] := by
    rw [List.filter_eq_nil_iff]
    intro i mem
    rw [Issue.isOwn_eq_false (numbered i mem)]
    exact Bool.false_ne_true
  have keep : own.filter Issue.isOwn = own := List.filter_eq_self.2 owned
  rw [List.filter_append, drop, keep, List.nil_append] at keys plain
  have origins : own.map Issue.id = own.map fun i => i.origin.id :=
    List.map_congr_left fun i mem => Issue.id_of_isOwn (owned i mem)
  rw [List.map_append, List.nodup_append]
  refine ⟨ids, ?_, ?_⟩
  · rw [origins]
    exact keys
  · intro a first b second same
    obtain ⟨i, memFront, rfl⟩ := List.mem_map.1 first
    obtain ⟨j, memOwn, rfl⟩ := List.mem_map.1 second
    -- Only numbered commands may have an identifier of this form.
    have sub := Issue.isSub_of_part (numbered i memFront)
    rw [same, Issue.id_of_isOwn (owned j memOwn), plain j memOwn] at sub
    cases sub

end PlanarArm
