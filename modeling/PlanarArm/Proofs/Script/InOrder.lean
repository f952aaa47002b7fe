import PlanarArm.Proofs.Json.OneLine
import PlanarArm.Proofs.Script.Success

/-!
# Scripts run in order, up to the first trouble

How the calls of a sender go is left open here: a `Semantics` says how computations take one state
to another, and asks only that what is made up of parts goes as its parts do, one after the other.
Sessions on any schedule have one (`Semantics.scheduled`), and so have computations that carry a
state along (`Semantics.stateful`), such as those on a bench. However the calls go, a script carries
out the statements of its lines in order, each from where the one before has led, until a line
cannot be read, loses its session or fails, and nothing after that (`script_in_order`). So a script
behind another one is carried out as it is on its own, if that one has succeeded.
-/

namespace PlanarArm

/-! ## How computations go -/

/-- How computations go: in which state they may start, what they may give then, and in which state
they may end. -/
structure Semantics (m : Type → Type) [Monad m] (σ : Type) where
  /-- Started in the first state, the computation may give the result and end in the second. -/
  Goes : {β : Type} → m β → σ → β → σ → Prop
  goes_pure : ∀ {β : Type} {x y : β} {c d : σ}, Goes (pure x) c y d ↔ y = x ∧ d = c
  goes_bind : ∀ {β γ : Type} {x : m β} {f : β → m γ} {c e : σ} {y : γ},
    Goes (x >>= f) c y e ↔ ∃ z d, Goes x c z d ∧ Goes (f z) d y e

namespace Semantics

/-- A sender beside a session, on any schedule. -/
def scheduled {α : Type} : Semantics (Scheduled α) (Course α) where
  Goes x := x
  goes_pure := Iff.rfl
  goes_bind := Iff.rfl

/-- Computations that carry a state along. -/
def stateful (σ : Type) : Semantics (StateM σ) σ where
  Goes x c y d := x c = (y, d)
  goes_pure := by
    intro β x y c d
    exact Prod.mk.injEq x c y d ▸ and_congr eq_comm eq_comm
  goes_bind := by
    intro β γ x f c e y
    constructor
    · exact fun run => ⟨(x c).1, (x c).2, rfl, run⟩
    · rintro ⟨z, d, first, second⟩
      change (match x c with | (z, d) => f z d) = (y, e)
      rw [first]
      exact second

end Semantics

/-! ## One line of a script -/

/-- The fault of a line that stands behind so many others. -/
def ScriptFault.behind (lines : Nat) : ScriptFault → ScriptFault
  | .refused line error => .refused (lines + line) error
  | .failed line text => .failed (lines + line) text

namespace Script

variable {m : Type → Type} [Monad m] [Agent Float m] {σ : Type} {sem : Semantics m σ}
  {steps line : Nat} {text : String} {lines : List String} {c d e : σ}
  {outcomes : List Outcome} {report : Report}

/-- Statements are carried out one after the other, each from where the one before has led, and none
fails. -/
inductive CarriesOut (sem : Semantics m σ) : σ → List Statement → List Outcome → σ → Prop where
  | nil (c : σ) : CarriesOut sem c [] [] c
  | cons {c d e : σ} {statement : Statement} {outcome : Outcome} {rest : List Statement}
    {outcomes : List Outcome} : sem.Goes statement.execute c (.ok outcome) d →
    outcome.isFailure = false → CarriesOut sem d rest outcomes e →
    CarriesOut sem c (statement :: rest) (outcome :: outcomes) e

/-- What makes a script end at a line, with the outcome that it still has, if any: the line cannot
be read, and nothing happens; its statement is carried out and gives no outcome; or the outcome is a
failure. -/
inductive Stumbles (sem : Semantics m σ) (steps : Nat) (c : σ) (line : Nat) (text : String) :
    List Outcome → ScriptFault → σ → Prop where
  | unreadable {error : ArmError Float} : Statement.parse steps text = .error error →
    Stumbles sem steps c line text [] (.refused line error) c
  | lost {statement : Statement} {error : ArmError Float} {d : σ} :
    Statement.parse steps text = .ok (some statement) →
    sem.Goes statement.execute c (.error error) d →
    Stumbles sem steps c line text [] (.refused line error) d
  | failed {statement : Statement} {outcome : Outcome} {d : σ} :
    Statement.parse steps text = .ok (some statement) →
    sem.Goes statement.execute c (.ok outcome) d → outcome.isFailure = true →
    Stumbles sem steps c line text [outcome] (.failed line (trimmed text)) d

/-- Every line can be read. -/
def Legible (steps : Nat) (lines : List String) : Prop :=
  ∀ text ∈ lines, ∃ found, Statement.parse steps text = .ok found

theorem legible_nil : Legible steps [] := by
  intro text mem
  cases mem

/-- A line is passed: it can be read, and its statement, if it has one, is carried out and does not
fail. -/
def Passes (sem : Semantics m σ) (steps : Nat) (text : String) (c : σ) (outcomes : List Outcome)
    (d : σ) : Prop :=
  ∃ found, Statement.parse steps text = .ok found ∧ CarriesOut sem c found.toList outcomes d

/-- The report of a script whose first lines have been passed with these outcomes. -/
def Report.after (first : List Outcome) (later : Report) : Report :=
  (first ++ later.1, later.2.map (first.length + ·))

theorem Report.after_nil (later : Report) : later.after [] = later := by
  obtain ⟨outcomes, ended⟩ := later
  cases ended <;> simp [Report.after, Except.map]

theorem Report.after_append (first second : List Outcome) (later : Report) :
    later.after (first ++ second) = (later.after second).after first := by
  obtain ⟨outcomes, ended⟩ := later
  cases ended <;> simp [Report.after, Except.map, Nat.add_assoc]

theorem Report.prepend_eq (outcome : Outcome) (later : Report) :
    later.prepend outcome = later.after [outcome] := by
  obtain ⟨outcomes, ended⟩ := later
  cases ended <;> simp [Report.prepend, Report.after, Except.map, Nat.add_comm]

theorem carriesOut_nil_iff : CarriesOut sem c [] outcomes d ↔ outcomes = [] ∧ d = c := by
  constructor
  · intro run
    cases run
    exact ⟨rfl, rfl⟩
  · rintro ⟨rfl, rfl⟩
    exact .nil d

theorem carriesOut_singleton_iff {statement : Statement} :
    CarriesOut sem c [statement] outcomes d ↔
      ∃ outcome, sem.Goes statement.execute c (.ok outcome) d ∧ outcome.isFailure = false ∧
        outcomes = [outcome] := by
  constructor
  · intro run
    cases run with
    | cons executed good rest =>
      obtain ⟨rfl, rfl⟩ := carriesOut_nil_iff.1 rest
      exact ⟨_, executed, good, rfl⟩
  · rintro ⟨outcome, executed, good, rfl⟩
    exact .cons executed good (.nil d)

theorem CarriesOut.append {first second : List Statement} {before later : List Outcome}
    (run : CarriesOut sem c first before d) (further : CarriesOut sem d second later e) :
    CarriesOut sem c (first ++ second) (before ++ later) e := by
  induction run with
  | nil c => exact further
  | cons executed good _ ih => exact .cons executed good (ih further)

theorem CarriesOut.of_append {first second : List Statement}
    (run : CarriesOut sem c (first ++ second) outcomes e) :
    ∃ before d later, CarriesOut sem c first before d ∧ CarriesOut sem d second later e ∧
      outcomes = before ++ later := by
  induction first generalizing c outcomes with
  | nil => exact ⟨[], c, outcomes, .nil c, run, rfl⟩
  | cons statement rest ih =>
    cases run with
    | cons executed good further =>
      obtain ⟨before, d, later, left, right, rfl⟩ := ih further
      exact ⟨_, d, later, .cons executed good left, right, rfl⟩

theorem goes_runLines_nil :
    sem.Goes (runLines steps line []) c report d ↔ report = ([], .ok 0) ∧ d = c := by
  rw [runLines]
  exact sem.goes_pure

/-- How a script goes on at a line with a statement. -/
theorem goes_runLines_of_statement {statement : Statement}
    (parsed : Statement.parse steps text = .ok (some statement)) :
    sem.Goes (runLines steps line (text :: lines)) c report e ↔
      (∃ outcome d later, sem.Goes statement.execute c (.ok outcome) d ∧
        outcome.isFailure = false ∧ sem.Goes (runLines steps (line + 1) lines) d later e ∧
        report = later.after [outcome]) ∨
      (∃ error, sem.Goes statement.execute c (.error error) e ∧
        report = ([], .error (.refused line error))) ∨
      ∃ outcome, sem.Goes statement.execute c (.ok outcome) e ∧ outcome.isFailure = true ∧
        report = ([outcome], .error (.failed line (trimmed text))) := by
  rw [runLines, parsed]
  dsimp only
  rw [sem.goes_bind]
  constructor
  · rintro ⟨result, d, executed, run⟩
    cases result with
    | error error =>
      obtain ⟨rfl, rfl⟩ := sem.goes_pure.1 run
      exact .inr (.inl ⟨error, executed, rfl⟩)
    | ok outcome =>
      dsimp only at run
      split at run
      · next failed =>
        obtain ⟨rfl, rfl⟩ := sem.goes_pure.1 run
        exact .inr (.inr ⟨outcome, executed, failed, rfl⟩)
      · next good =>
        obtain ⟨later, d', further, ended⟩ := sem.goes_bind.1 run
        obtain ⟨rfl, rfl⟩ := sem.goes_pure.1 ended
        exact .inl ⟨outcome, d, later, executed, Bool.eq_false_iff.2 good, further,
          Report.prepend_eq outcome later⟩
  · rintro (⟨outcome, d, later, executed, good, further, rfl⟩ | ⟨error, executed, rfl⟩ |
      ⟨outcome, executed, failed, rfl⟩)
    · refine ⟨.ok outcome, d, executed, ?_⟩
      dsimp only
      rw [good, if_neg Bool.false_ne_true, sem.goes_bind]
      exact ⟨later, e, further, sem.goes_pure.2 ⟨(Report.prepend_eq outcome later).symm, rfl⟩⟩
    · exact ⟨_, e, executed, sem.goes_pure.2 ⟨rfl, rfl⟩⟩
    · refine ⟨.ok outcome, e, executed, ?_⟩
      dsimp only
      rw [if_pos failed]
      exact sem.goes_pure.2 ⟨rfl, rfl⟩

/-- A line is passed, or makes the script end. -/
theorem goes_runLines_cons :
    sem.Goes (runLines steps line (text :: lines)) c report e ↔
      (∃ first d later, Passes sem steps text c first d ∧
        sem.Goes (runLines steps (line + 1) lines) d later e ∧ report = later.after first) ∨
      ∃ last fault, Stumbles sem steps c line text last fault e ∧
        report = (last, .error fault) := by
  unfold Passes
  cases parsed : Statement.parse steps text with
  | error error =>
    rw [runLines, parsed]
    dsimp only
    rw [sem.goes_pure]
    constructor
    · rintro ⟨rfl, rfl⟩
      exact .inr ⟨_, _, .unreadable parsed, rfl⟩
    · rintro (⟨_, _, _, ⟨_, legible, -⟩, -⟩ | ⟨_, _, stumbles, rfl⟩)
      · cases legible
      · cases stumbles with
        | unreadable found =>
          cases parsed.symm.trans found
          exact ⟨rfl, rfl⟩
        | lost found | failed found => cases parsed.symm.trans found
  | ok found =>
    cases found with
    | none =>
      rw [runLines, parsed]
      constructor
      · intro run
        exact .inl ⟨[], c, report, ⟨none, rfl, .nil c⟩, run, report.after_nil.symm⟩
      · rintro (⟨_, _, later, ⟨_, legible, passed⟩, run, rfl⟩ | ⟨_, _, stumbles, -⟩)
        · cases legible
          obtain ⟨rfl, rfl⟩ := carriesOut_nil_iff.1 passed
          rw [Report.after_nil]
          exact run
        · cases stumbles with
          | unreadable found | lost found | failed found => cases parsed.symm.trans found
    | some statement =>
      rw [goes_runLines_of_statement parsed]
      constructor
      · rintro (⟨outcome, d, later, executed, good, further, rfl⟩ | ⟨error, executed, rfl⟩ |
          ⟨outcome, executed, failed, rfl⟩)
        · have passed := carriesOut_singleton_iff.2 ⟨outcome, executed, good, rfl⟩
          exact .inl ⟨[outcome], d, later, ⟨_, rfl, passed⟩, further, rfl⟩
        · exact .inr ⟨_, _, .lost parsed executed, rfl⟩
        · exact .inr ⟨_, _, .failed parsed executed failed, rfl⟩
      · rintro (⟨_, d, later, ⟨_, legible, passed⟩, further, rfl⟩ | ⟨_, _, stumbles, rfl⟩)
        · cases legible
          obtain ⟨outcome, executed, good, rfl⟩ := carriesOut_singleton_iff.1 passed
          exact .inl ⟨outcome, d, later, executed, good, further, rfl⟩
        · cases stumbles with
          | unreadable found => cases parsed.symm.trans found
          | lost found executed =>
            cases parsed.symm.trans found
            exact .inr (.inl ⟨_, executed, rfl⟩)
          | failed found executed failed =>
            cases parsed.symm.trans found
            exact .inr (.inr ⟨_, executed, failed, rfl⟩)

/-! ## Up to the first trouble -/

theorem statementsOf_cons {found : Option Statement}
    (parsed : Statement.parse steps text = .ok found) (lines : List String) :
    statementsOf steps (text :: lines) = found.toList ++ statementsOf steps lines := by
  rw [statementsOf, List.filterMap_cons, parsed]
  cases found <;> rfl

theorem CarriesOut.length_eq {statements : List Statement}
    (run : CarriesOut sem c statements outcomes d) : outcomes.length = statements.length := by
  induction run with
  | nil c => rfl
  | cons _ _ _ ih => rw [List.length_cons, List.length_cons, ih]

/-- Lines that can all be read are passed one after the other. -/
theorem passes_cons_iff :
    Legible steps (text :: lines) ∧
        CarriesOut sem c (statementsOf steps (text :: lines)) outcomes e ↔
      ∃ first d later, Passes sem steps text c first d ∧ Legible steps lines ∧
        CarriesOut sem d (statementsOf steps lines) later e ∧ outcomes = first ++ later := by
  constructor
  · rintro ⟨legible, run⟩
    obtain ⟨found, parsed⟩ := legible text List.mem_cons_self
    rw [statementsOf_cons parsed] at run
    obtain ⟨first, d, later, passed, further, rfl⟩ := run.of_append
    exact ⟨first, d, later, ⟨found, parsed, passed⟩, fun other mem => legible other (.tail _ mem),
      further, rfl⟩
  · rintro ⟨first, d, later, ⟨found, parsed, passed⟩, legible, further, rfl⟩
    refine ⟨?_, ?_⟩
    · intro other mem
      rcases List.mem_cons.1 mem with rfl | rest
      · exact ⟨found, parsed⟩
      · exact legible other rest
    · rw [statementsOf_cons parsed]
      exact passed.append further

/-- A script succeeds if and only if all its lines can be read and its statements are carried out
without a failure. -/
theorem goes_runLines_ok_iff {n : Nat} :
    sem.Goes (runLines steps line lines) c (outcomes, .ok n) e ↔
      Legible steps lines ∧ CarriesOut sem c (statementsOf steps lines) outcomes e ∧
        n = outcomes.length := by
  induction lines generalizing line c outcomes n with
  | nil =>
    rw [goes_runLines_nil, statementsOf, List.filterMap_nil, carriesOut_nil_iff]
    constructor
    · rintro ⟨same, rfl⟩
      cases same
      exact ⟨legible_nil, ⟨rfl, rfl⟩, rfl⟩
    · rintro ⟨-, ⟨rfl, rfl⟩, rfl⟩
      exact ⟨rfl, rfl⟩
  | cons text rest ih =>
    rw [goes_runLines_cons, ← and_assoc, passes_cons_iff]
    constructor
    · rintro (⟨first, d, ⟨later, ended⟩, passed, further, same⟩ | ⟨_, _, -, same⟩)
      · cases ended with
        | error fault => cases same
        | ok k =>
          obtain ⟨legible, carried, rfl⟩ := ih.1 further
          cases same
          exact ⟨⟨first, d, later, passed, legible, carried, rfl⟩, List.length_append.symm⟩
      · cases same
    · rintro ⟨⟨first, d, later, passed, legible, carried, rfl⟩, rfl⟩
      refine .inl ⟨first, d, (later, .ok later.length), passed, ih.2 ⟨legible, carried, rfl⟩, ?_⟩
      rw [Report.after, List.length_append]
      rfl

/-- A script ends before its last line if and only if one of its lines makes it end, to which all
lines before have been passed. -/
theorem goes_runLines_error_iff {fault : ScriptFault} :
    sem.Goes (runLines steps line lines) c (outcomes, .error fault) e ↔
      ∃ before text later, lines = before ++ text :: later ∧ Legible steps before ∧
        ∃ first d last, CarriesOut sem c (statementsOf steps before) first d ∧
          Stumbles sem steps d (line + before.length) text last fault e ∧
          outcomes = first ++ last := by
  -- The line that ends the script is the first one, or the first is passed and it is behind that.
  induction lines generalizing line c outcomes with
  | nil =>
    rw [goes_runLines_nil]
    constructor
    · rintro ⟨same, -⟩
      cases same
    · rintro ⟨before, text, later, parted, -⟩
      exact absurd parted (by simp)
  | cons text rest ih =>
    rw [goes_runLines_cons]
    constructor
    · rintro (⟨first, d, ⟨further, ended⟩, passed, run, same⟩ | ⟨last, _, stumbles, same⟩)
      · cases ended with
        | ok k => cases same
        | error other =>
          cases same
          obtain ⟨before, line', later, rfl, legible, second, d', last, carried, stumbles, rfl⟩ :=
            ih.1 run
          obtain ⟨readable, whole⟩ := passes_cons_iff.2
            ⟨first, d, second, passed, legible, carried, rfl⟩
          rw [Nat.add_right_comm] at stumbles
          exact ⟨text :: before, line', later, rfl, readable, first ++ second, d', last, whole,
            stumbles, (List.append_assoc _ _ _).symm⟩
      · cases same
        exact ⟨[], text, rest, rfl, legible_nil, [], c, outcomes, .nil c, stumbles, rfl⟩
    · rintro ⟨before, line', later, parted, legible, first, d, last, carried, stumbles, rfl⟩
      rcases before with _ | ⟨text', before⟩
      · cases parted
        obtain ⟨rfl, rfl⟩ := carriesOut_nil_iff.1 carried
        exact .inr ⟨last, fault, stumbles, rfl⟩
      · cases parted
        obtain ⟨own, d', second, passed, readable, further, rfl⟩ :=
          passes_cons_iff.1 ⟨legible, carried⟩
        rw [List.length_cons, ← Nat.add_assoc, Nat.add_right_comm] at stumbles
        have run := ih.2 ⟨before, line', later, rfl, readable, second, d, last, further, stumbles,
          rfl⟩
        refine .inl ⟨own, d', (second ++ last, .error fault), passed, run, ?_⟩
        rw [Report.after, List.append_assoc]
        rfl

/-! ## One script behind another -/

/-- The report of lines that stand behind so many others. -/
def Report.behind (lines : Nat) (report : Report) : Report :=
  (report.1, report.2.mapError (·.behind lines))

theorem Report.behind_after (lines : Nat) (first : List Outcome) (later : Report) :
    (later.after first).behind lines = (later.behind lines).after first := by
  obtain ⟨outcomes, ended⟩ := later
  cases ended <;> rfl

/-- Where a line stands changes nothing but its number in a fault. -/
theorem stumbles_behind_iff {before : Nat} {last : List Outcome} {fault : ScriptFault} :
    Stumbles sem steps c (before + line) text last fault e ↔
      ∃ own, Stumbles sem steps c line text last own e ∧ fault = own.behind before := by
  constructor
  · intro stumbles
    cases stumbles with
    | unreadable parsed => exact ⟨_, .unreadable parsed, rfl⟩
    | lost parsed executed => exact ⟨_, .lost parsed executed, rfl⟩
    | failed parsed executed failed => exact ⟨_, .failed parsed executed failed, rfl⟩
  · rintro ⟨own, stumbles, rfl⟩
    cases stumbles with
    | unreadable parsed => exact .unreadable parsed
    | lost parsed executed => exact .lost parsed executed
    | failed parsed executed failed => exact .failed parsed executed failed

theorem goes_runLines_behind {before : Nat} :
    sem.Goes (runLines steps (before + line) lines) c report e ↔
      ∃ own, sem.Goes (runLines steps line lines) c own e ∧ report = own.behind before := by
  induction lines generalizing line c report with
  | nil =>
    simp only [goes_runLines_nil]
    constructor
    · rintro ⟨rfl, rfl⟩
      exact ⟨_, ⟨rfl, rfl⟩, rfl⟩
    · rintro ⟨own, ⟨rfl, rfl⟩, rfl⟩
      exact ⟨rfl, rfl⟩
  | cons text rest ih =>
    simp only [goes_runLines_cons, Nat.add_assoc before line 1]
    constructor
    · rintro (⟨first, d, later, passed, further, rfl⟩ | ⟨last, fault, stumbles, rfl⟩)
      · obtain ⟨own, run, rfl⟩ := ih.1 further
        exact ⟨_, .inl ⟨first, d, own, passed, run, rfl⟩, (own.behind_after before first).symm⟩
      · obtain ⟨own, same, rfl⟩ := stumbles_behind_iff.1 stumbles
        exact ⟨_, .inr ⟨last, own, same, rfl⟩, rfl⟩
    · rintro ⟨own, ⟨first, d, later, passed, further, rfl⟩ | ⟨last, fault, stumbles, rfl⟩, rfl⟩
      · exact .inl ⟨first, d, later.behind before, passed, ih.2 ⟨later, further, rfl⟩,
          later.behind_after before first⟩
      · exact .inr ⟨last, _, stumbles_behind_iff.2 ⟨fault, stumbles, rfl⟩, rfl⟩

/-- Lines behind others are carried out if these have succeeded. -/
theorem goes_runLines_append {first second : List String} :
    sem.Goes (runLines steps line (first ++ second)) c report e ↔
      (∃ outcomes n d later, sem.Goes (runLines steps line first) c (outcomes, .ok n) d ∧
        sem.Goes (runLines steps (line + first.length) second) d later e ∧
        report = later.after outcomes) ∨
      ∃ outcomes fault, sem.Goes (runLines steps line first) c (outcomes, .error fault) e ∧
        report = (outcomes, .error fault) := by
  -- What has been passed of the first script is put before the report of the rest, so that the
  -- second one starts with the outcomes of the whole first one before it.
  induction first generalizing line c report with
  | nil =>
    simp only [goes_runLines_nil]
    constructor
    · intro run
      exact .inl ⟨[], 0, c, report, ⟨rfl, rfl⟩, run, report.after_nil.symm⟩
    · rintro (⟨outcomes, n, d, later, ⟨same, rfl⟩, run, rfl⟩ | ⟨_, _, ⟨same, -⟩, -⟩)
      · cases same
        rw [Report.after_nil]
        exact run
      · cases same
  | cons text rest ih =>
    simp only [List.cons_append, goes_runLines_cons, ih, List.length_cons,
      Nat.add_right_comm line 1, ← Nat.add_assoc]
    constructor
    · rintro (⟨own, d, later, passed, ⟨outcomes, n, d', further, run, behind, rfl⟩ |
        ⟨outcomes, fault, run, rfl⟩, rfl⟩ | ⟨last, fault, stumbles, rfl⟩)
      · refine .inl ⟨own ++ outcomes, own.length + n, d', further,
          .inl ⟨own, d, (outcomes, .ok n), passed, run, rfl⟩, behind, ?_⟩
        rw [Report.after_append]
      · exact .inr ⟨own ++ outcomes, fault, .inl ⟨own, d, _, passed, run, rfl⟩, rfl⟩
      · exact .inr ⟨last, fault, .inr ⟨last, fault, stumbles, rfl⟩, rfl⟩
    · rintro (⟨outcomes, n, d, later, ⟨own, d', ⟨second', ended⟩, passed, run, same⟩ |
        ⟨_, _, -, same⟩, behind, rfl⟩ |
        ⟨outcomes, fault, ⟨own, d', ⟨second', ended⟩, passed, run, same⟩ |
          ⟨last, _, stumbles, same⟩, rfl⟩)
      · cases ended with
        | error fault => cases same
        | ok k =>
          cases same
          exact .inl ⟨own, d', _, passed, .inl ⟨second', k, d, later, run, behind, rfl⟩,
            later.after_append own second'⟩
      · cases same
      · cases ended with
        | ok k => cases same
        | error other =>
          cases same
          exact .inl ⟨own, d', _, passed, .inr ⟨second', fault, run, rfl⟩, rfl⟩
      · cases same
        exact .inr ⟨_, fault, stumbles, rfl⟩

/-- Carries out a script and, if it has succeeded, another one behind it. -/
def runBoth (steps : Nat) (first second : String) : m Report := do
  let report ← run steps first
  match report.2 with
  | .error _ => return report
  | .ok _ =>
    let later ← run steps second
    return (later.behind (Text.lines first).length).after report.1

theorem goes_runBoth {first second : String} :
    sem.Goes (runBoth steps first second) c report e ↔
      (∃ outcomes n d later, sem.Goes (run steps first) c (outcomes, .ok n) d ∧
        sem.Goes (run steps second) d later e ∧
        report = (later.behind (Text.lines first).length).after outcomes) ∨
      ∃ outcomes fault, sem.Goes (run steps first) c (outcomes, .error fault) e ∧
        report = (outcomes, .error fault) := by
  rw [runBoth, sem.goes_bind]
  constructor
  · rintro ⟨⟨outcomes, ended⟩, d, run, rest⟩
    cases ended with
    | error fault =>
      obtain ⟨rfl, rfl⟩ := sem.goes_pure.1 rest
      exact .inr ⟨outcomes, fault, run, rfl⟩
    | ok n =>
      obtain ⟨later, d', further, ended⟩ := sem.goes_bind.1 rest
      obtain ⟨rfl, rfl⟩ := sem.goes_pure.1 ended
      exact .inl ⟨outcomes, n, d, later, run, further, rfl⟩
  · rintro (⟨outcomes, n, d, later, run, further, rfl⟩ | ⟨outcomes, fault, run, rfl⟩)
    · exact ⟨_, d, run, sem.goes_bind.2 ⟨later, e, further, sem.goes_pure.2 ⟨rfl, rfl⟩⟩⟩
    · exact ⟨_, e, run, sem.goes_pure.2 ⟨rfl, rfl⟩⟩

theorem goes_run_append {source : String} (complete : Text.IsComplete source) (more : String) :
    sem.Goes (run steps (source ++ more)) c report e ↔
      sem.Goes (runBoth steps source more) c report e := by
  rw [goes_runBoth, run, Text.lines_append complete, goes_runLines_append, Nat.add_comm]
  simp only [goes_runLines_behind]
  constructor
  · rintro (⟨first, n, d, _, run, ⟨later, further, rfl⟩, rfl⟩ | ended)
    · exact .inl ⟨first, n, d, later, run, further, rfl⟩
    · exact .inr ended
  · rintro (⟨first, n, d, later, run, further, rfl⟩ | ended)
    · exact .inl ⟨first, n, d, _, run, ⟨later, further, rfl⟩, rfl⟩
    · exact .inr ended

/-- For computations that carry a state along, the two scripts are one and the same computation. -/
theorem run_append_stateful [Agent Float (StateM σ)] {source : String}
    (complete : Text.IsComplete source) (more : String) :
    (run steps (source ++ more) : StateM σ Report) = runBoth steps source more := by
  funext c
  have joined (report : Report) (d : σ) :
      (Semantics.stateful σ).Goes (runBoth steps source more) c report d →
        (Semantics.stateful σ).Goes (run steps (source ++ more)) c report d :=
    (goes_run_append complete more).2
  exact joined _ _ rfl

end Script

/-! ## Whole scripts -/

theorem ScriptFault.message_of_stumbles {m : Type → Type} [Monad m] [Agent Float m] {σ : Type}
    {sem : Semantics m σ} {steps line : Nat} {text : String} {c e : σ} {last : List Outcome}
    {fault : ScriptFault} (stumbles : Script.Stumbles sem steps c line text last fault e) :
    ∃ reason, fault.message = "line " ++ line.repr ++ ": " ++ reason := by
  cases stumbles with
  | unreadable | lost => exact ⟨_, rfl⟩
  | failed =>
    have parted : ": command failed: " = ": " ++ "command failed: " := rfl
    refine ⟨"command failed: " ++ Script.trimmed text, ?_⟩
    rw [ScriptFault.message, parted]
    simp only [String.append_assoc]

/-- Whatever the calls of a sender do, a script carries out the statements of its lines in order,
each from where the one before has led. It succeeds exactly if all its lines can be read and no
statement fails or loses its session, and then gives their number. Else there is a first line that
cannot be read, or whose statement gives no outcome or one of a failure; the statements before that
have been carried out, and so has its own one if it can be read, and none behind it; and the fault
names the line. The outcomes are those of the statements that have been carried out, in order, the
failed one included, and each is written on a line of its own. A script behind another one, of whole
lines, is carried out if that one has succeeded, and as it is on its own but for the numbers of its
lines. -/
theorem script_in_order {m : Type → Type} [Monad m] [Agent Float m] {σ : Type}
    (sem : Semantics m σ) (steps : Nat) (source : String) (c e : σ) (outcomes : List Outcome) :
    (∀ n, sem.Goes (Script.run steps source) c (outcomes, .ok n) e ↔
      Script.Legible steps (Text.lines source) ∧
        Script.CarriesOut sem c (Script.statements steps source) outcomes e ∧
        n = (Script.statements steps source).length) ∧
    (∀ fault, sem.Goes (Script.run steps source) c (outcomes, .error fault) e ↔
      ∃ before text later, Text.lines source = before ++ text :: later ∧
        Script.Legible steps before ∧
        ∃ first d last, Script.CarriesOut sem c (Script.statementsOf steps before) first d ∧
          Script.Stumbles sem steps d (before.length + 1) text last fault e ∧
          outcomes = first ++ last ∧
          ∃ reason, fault.message = "line " ++ (before.length + 1).repr ++ ": " ++ reason) ∧
    Text.lines (Shell.unlines (outcomes.map fun outcome => outcome.toLine.compact)) =
      outcomes.map (fun outcome => outcome.toLine.compact) ∧
    (Text.IsComplete source → ∀ more report,
      sem.Goes (Script.run steps (source ++ more)) c report e ↔
        sem.Goes (Script.runBoth steps source more) c report e) := by
  refine ⟨fun n => ?_, fun fault => ?_, ?_, fun complete more report => ?_⟩
  · rw [Script.run, Script.goes_runLines_ok_iff]
    refine and_congr_right fun legible => and_congr_right fun carried => ?_
    rw [carried.length_eq]
    rfl
  · rw [Script.run, Script.goes_runLines_error_iff]
    constructor
    · rintro ⟨before, text, later, parted, legible, first, d, last, carried, stumbles, rfl⟩
      rw [Nat.add_comm] at stumbles
      exact ⟨before, text, later, parted, legible, first, d, last, carried, stumbles, rfl,
        ScriptFault.message_of_stumbles stumbles⟩
    · rintro ⟨before, text, later, parted, legible, first, d, last, carried, stumbles, rfl, -⟩
      rw [Nat.add_comm] at stumbles
      exact ⟨before, text, later, parted, legible, first, d, last, carried, stumbles, rfl⟩
  · refine Text.lines_unlines fun text mem => ?_
    obtain ⟨outcome, -, rfl⟩ := List.mem_map.1 mem
    exact outcome.toLine.oneLine_compact
  · exact Script.goes_run_append complete more

/-- A session is asked for its state and not for anything else, since the next line cannot be
read. -/
theorem script_in_order_wiggle :
    let c : Course Float := .start .standard 1 0.1 16
    let unknown : ArmError Float := .invalidArgument "unknown statement 'wiggle'"
    Text.IsComplete "status\n" ∧
      Semantics.scheduled.Goes (Script.run standardLineSteps ("status\n" ++ "wiggle\n")) c
        ([.status c.world.latest], .error (.refused 2 unknown)) c := by
  intro c unknown
  have complete : Text.IsComplete "status\n" := .inr ⟨"status", rfl⟩
  have legible : Statement.parse standardLineSteps "status" = .ok (some .status) := rfl
  have unreadable : Statement.parse standardLineSteps "wiggle" = .error unknown := rfl
  have asked : Semantics.scheduled.Goes Statement.status.execute c
      (.ok (.status c.world.latest)) c :=
    ⟨c.world.latest, c, ⟨.refl c, rfl⟩, rfl, rfl⟩
  have first : Semantics.scheduled.Goes (Script.run standardLineSteps "status\n") c
      ([.status c.world.latest], .ok 1) c :=
    (Script.goes_runLines_of_statement legible).2
      (.inl ⟨_, c, ([], .ok 0), asked, rfl, Script.goes_runLines_nil.2 ⟨rfl, rfl⟩, rfl⟩)
  have second : Semantics.scheduled.Goes (Script.run standardLineSteps "wiggle\n") c
      ([], .error (.refused 1 unknown)) c :=
    Script.goes_runLines_cons.2 (.inr ⟨_, _, .unreadable unreadable, rfl⟩)
  have both := Script.goes_runBoth.2 (.inl ⟨_, _, c, _, first, second, rfl⟩)
  exact ⟨complete, ((script_in_order Semantics.scheduled standardLineSteps "status\n" c c []).2.2.2
    complete "wiggle\n" _).2 both⟩

end PlanarArm
