import PlanarArm.Console.Shell
import PlanarArm.Script.Run
import PlanarArm.Session.Bench
import PlanarArm.Settings.Basic

/-!
# Launching the program

`Launch.start` says what the program does with what it finds when it is called: the settings, a
script perhaps, or else a user at the shell. What it shows, and what it leaves behind, is a
`Transcript`.
-/

namespace PlanarArm

/-- What the program finds when it is called. -/
structure Launch where
  /-- Where the settings are kept. -/
  settingsPath : String
  /-- The settings as they are kept, if there are any. -/
  settingsText : Option String
  /-- What overrides them. -/
  overrides : Settings.Overrides
  /-- The name of a script, and its text or why it cannot be read. -/
  script : Option (String × Except String String)

/-- What the program shows and leaves behind. -/
structure Transcript where
  /-- What it shows. -/
  output : String
  /-- What it complains of. -/
  errors : String
  /-- How it ends: zero for success. -/
  exitCode : Nat
  /-- The settings that it has written, if it has written any. -/
  written : Option String

/-- What the program does after it has been called. -/
inductive Startup where
  /-- It ends. -/
  | finished (transcript : Transcript)
  /-- It goes on with the shell, in which lines have so many points. -/
  | shell (transcript : Transcript) (steps : Nat) (bench : Bench Float)

namespace Transcript

/-- Nothing was shown. -/
def empty : Transcript :=
  ⟨"", "", 0, none⟩

/-- Shows a text. -/
def say (t : Transcript) (text : String) : Transcript :=
  { t with output := t.output ++ text }

/-- Complains, and fails. -/
def fail (t : Transcript) (complaint : String) : Transcript :=
  { t with errors := t.errors ++ complaint ++ "\n", exitCode := 1 }

end Transcript

namespace Launch

/-- The settings to go by. Those of a first call are written; those that cannot be read are
replaced by the standard ones. -/
def settings (l : Launch) (t : Transcript) : Settings × Transcript :=
  match l.settingsText with
  | none =>
    let t := t.say ("  ✓ Default config written to " ++ l.settingsPath ++ "\n")
    (Settings.standard.override l.overrides, { t with written := some Settings.standard.write })
  | some text =>
    match Settings.parse? text with
    | some s => (s.override l.overrides, t)
    | none =>
      (.standard, t.say "Config error: Failed to parse config\n  Using default configuration.\n")

/-- The frames after which a program is given up. -/
def frameBudget : Nat :=
  1000000000

/-- The identifier of the command with this number, counting from 0. -/
def commandId (k : Nat) : CommandId :=
  ⟨"#" ++ (k + 1).repr⟩

/-- The session that the settings describe. With no time between frames it is there, but killed
before it does anything. -/
def bench (s : Settings) (m : ArmModel Float) : Option (Bench Float) :=
  let create (period : Nat) : Bench Float :=
    .create (.withSpeed m s.initialSpeed) s.maxFrameStep Settings.reportCapacity
      Settings.inboxCapacity period frameBudget commandId
  match timedInterval s.frameRate with
  | .ok period => some (create period)
  | .error .zero => some (create 1).kill
  | .error .tooLong => none

/-- Carries out a script. -/
def runScript (t : Transcript) (steps : Nat) (source : String) (b : Bench Float) : Transcript :=
  let run : StateM (Bench Float) Script.Report := Script.run steps source
  let ((outcomes, result), _) := run.run b
  let t := t.say (Shell.unlines (outcomes.map fun outcome => outcome.toLine.compact))
  match result with
  | .ok _ => t
  | .error fault => t.fail ("Script aborted: " ++ fault.message)

/-- What the program does. -/
def start (l : Launch) : Startup :=
  let t := if l.script.isNone then Transcript.empty.say Shell.banner else .empty
  let (s, t) := l.settings t
  match s.arm with
  | .error e => .finished (t.fail ("Invalid arm configuration: " ++ e.message))
  | .ok m =>
    match bench s m, l.script with
    | none, _ => .finished { t with exitCode := 101 }
    | some b, none => .shell (t.say Shell.hint) s.lineSteps b
    | some _, some (path, .error reason) =>
      .finished (t.fail ("Cannot read script: " ++ path ++ ": " ++ reason))
    | some b, some (_, .ok source) => .finished (runScript t s.lineSteps source b)

/-- What the program shows and leaves behind if a user at the shell enters these lines. -/
def transcript (l : Launch) (lines : List String) : Transcript :=
  match l.start with
  | .finished t => t
  | .shell t steps b =>
    let run : StateM (Bench Float) String := Shell.run steps lines
    t.say (run.run b).1

end Launch

end PlanarArm
