import PlanarArm.Script.Outcome
import PlanarArm.Text.Lines

/-!
# Scripts

A script is carried out line by line. It ends at the first line that cannot be read, loses its
session, or fails; what came of the lines before (and of a command that failed) has been written by
then.
-/

namespace PlanarArm

/-- Why a script ended before its last line. -/
inductive ScriptFault where
  /-- The line with this number cannot be read, or there is no session any more to carry it out. -/
  | refused (line : Nat) (error : ArmError Float)
  /-- The command of the line with this number failed. -/
  | failed (line : Nat) (text : String)

/-- The fault in words. -/
def ScriptFault.message : ScriptFault → String
  | .refused line error => "line " ++ line.repr ++ ": " ++ error.message
  | .failed line text => "line " ++ line.repr ++ ": command failed: " ++ text

namespace Script

/-- The text of a line without the white space around it. -/
def trimmed (line : String) : String :=
  String.ofList (Text.trim line.toList)

/-- What came of the lines of a script, in order, and how it ended: with the number of its
statements, or before its last line. -/
abbrev Report :=
  List Outcome × Except ScriptFault Nat

/-- Puts an outcome before those of a report, which counts as one more statement. -/
def Report.prepend (outcome : Outcome) (report : Report) : Report :=
  (outcome :: report.1, report.2.map (· + 1))

variable {m : Type → Type} [Monad m] [Agent Float m]

/-- Carries out lines, the first of which has the number `line`. -/
def runLines (steps line : Nat) : List String → m Report
  | [] => return ([], .ok 0)
  | text :: rest => do
    match Statement.parse steps text with
    | .error e => return ([], .error (.refused line e))
    | .ok none => runLines steps (line + 1) rest
    | .ok (some statement) =>
      match ← statement.execute with
      | .error e => return ([], .error (.refused line e))
      | .ok outcome =>
        if outcome.isFailure then return ([outcome], .error (.failed line (trimmed text)))
        else return Report.prepend outcome (← runLines steps (line + 1) rest)

/-- Carries out a script; `steps` is the number of points of a line that does not give it. -/
def run (steps : Nat) (source : String) : m Report :=
  runLines steps 1 (Text.lines source)

end Script

end PlanarArm
