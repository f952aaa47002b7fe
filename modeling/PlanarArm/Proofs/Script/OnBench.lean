import PlanarArm.Proofs.Session.OnBench
import PlanarArm.Script.Run

/-!
# Scripts on a bench

A run of a script on a bench is one on some schedule (`Script.scheduled_of_bench`), so that what is
known of the latter holds of the former.
-/

namespace PlanarArm

/-- Whether the statement aborts all commands. -/
def Statement.aborts : Statement → Bool
  | .stop | .reset => true
  | _ => false

namespace Script

/-- The statements in lines, as far as these can be read. -/
def statementsOf (steps : Nat) (lines : List String) : List Statement :=
  lines.filterMap fun text =>
    match Statement.parse steps text with
    | .ok found => found
    | .error _ => none

/-- The statements of a script. -/
def statements (steps : Nat) (source : String) : List Statement :=
  statementsOf steps (Text.lines source)

end Script

namespace Bench.Realises

theorem executeRun (kind : CommandKind Float) :
    Realises (α := Float) (Statement.executeRun kind) (Statement.executeRun kind) := by
  refine bind (submit kind) fun result => ?_
  cases result with
  | error e => exact pure _
  | ok handed => exact bind (await handed.2) fun _ => pure _

theorem executeWire (command : Command Float) :
    Realises (α := Float) (Statement.executeWire command) (Statement.executeWire command) := by
  refine bind (submitCommand command) fun ticket => ?_
  cases ticket with
  | error e => exact pure _
  | ok ticket =>
    refine bind (await ticket) fun result => ?_
    cases result with
    | error e => exact pure _
    | ok completion => exact pure _

theorem execute {statement : Statement} (calm : statement.aborts = false) :
    Realises (α := Float) statement.execute statement.execute := by
  cases statement with
  | run kind => exact executeRun kind
  | wire command => exact executeWire command
  | speed value => exact bind (setSpeed value) fun _ => pure _
  | resetPath => exact bind resetPath fun _ => pure _
  | stop => cases calm
  | reset => cases calm
  | status => exact bind snapshot fun _ => pure _

theorem runLines {steps line : Nat} {lines : List String}
    (calm : ∀ s ∈ Script.statementsOf steps lines, s.aborts = false) :
    Realises (α := Float) (Script.runLines steps line lines) (Script.runLines steps line lines) := by
  induction lines generalizing line with
  | nil => exact pure _
  | cons text rest ih =>
    rw [Script.runLines, Script.runLines]
    rw [Script.statementsOf, List.filterMap_cons] at calm
    cases parsed : Statement.parse steps text with
    | error e => exact pure _
    | ok found =>
      rw [parsed] at calm
      cases found with
      | none => exact ih calm
      | some statement =>
        refine bind (execute (calm statement List.mem_cons_self)) fun result => ?_
        cases result with
        | error e => exact pure _
        | ok outcome =>
          dsimp only
          split
          · exact pure _
          · exact bind (ih fun s mem => calm s (.tail _ mem)) fun _ => pure _

end Bench.Realises

/-- What a script does on a new bench, it does on some schedule of a session that has seen its first
frame. -/
theorem Script.scheduled_of_bench (m : ArmModel Float) (speed maxStep : Float)
    (reportCapacity inboxCapacity period budget steps : Nat) (supply : Nat → CommandId)
    (source : String) (calm : ∀ s ∈ Script.statements steps source, s.aborts = false) :
    let b := Bench.create (.withSpeed m speed) maxStep reportCapacity inboxCapacity period budget
      supply
    let out := (Script.run steps source : StateM (Bench Float) Script.Report) b
    ∃ c d : Course Float, (Course.start m speed maxStep reportCapacity).Turns c ∧
      (Script.run steps source : Scheduled Float Script.Report) c out.1 d ∧
      d.world = out.2.world := by
  intro b out
  obtain ⟨c, turns, tidy, world, -⟩ :=
    (Course.Tidy.start m speed maxStep reportCapacity).frame rfl (0 * period)
  obtain ⟨d, run, -, same⟩ := Bench.Realises.runLines calm b c tidy world
  exact ⟨c, d, turns, run, same⟩

end PlanarArm
