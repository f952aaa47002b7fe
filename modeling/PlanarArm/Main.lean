import PlanarArm.Console.Launch

/-!
# The program

`armsim` carries out the script that is named as its argument, or serves a user at the shell. Here
files, the environment and the terminal are read and written; all else is in the library.
-/

namespace PlanarArm.Program

/-- Why a file cannot be read, in the words of the system. -/
def readFault : IO.Error → String
  | .noFileOrDirectory .. => "No such file or directory (os error 2)"
  | e => toString e

/-- The text of a file, if there is one. -/
def readText? (path : String) : IO (Option String) := do
  try
    return some (← IO.FS.readFile path)
  catch _ => return none

/-- The text of a script, or why it cannot be read. -/
def readScript (path : String) : IO (Except String String) := do
  try
    return .ok (← IO.FS.readFile path)
  catch e => return .error (readFault e)

/-- The directory of the settings. -/
def settingsDirectory : IO String := do
  let home ← IO.getEnv "HOME"
  let profile ← IO.getEnv "USERPROFILE"
  return (home.orElse fun _ => profile).getD "." ++ "/.armsim"

/-- Shows what a transcript holds and writes what it leaves behind. -/
def perform (directory path : String) (t : Transcript) : IO Unit := do
  if let some text := t.written then
    IO.FS.createDirAll directory
    IO.FS.writeFile path text
  IO.print t.output
  IO.eprint t.errors

/-- Serves a user until there are no more lines. -/
partial def serve (steps : Nat) (bench : Bench Float) : IO Unit := do
  IO.print Shell.prompt
  (← IO.getStdout).flush
  let line ← (← IO.getStdin).getLine
  if line.isEmpty then return
  let respond : StateM (Bench Float) (String × Bool) := Shell.respond steps line
  let ((text, goesOn), bench) := respond.run bench
  IO.print text
  if goesOn then serve steps bench

/-- Runs the program. -/
def run (args : List String) : IO UInt32 := do
  let directory ← settingsDirectory
  let path := directory ++ "/config.toml"
  let script ← match args.head? with
    | none => pure none
    | some name => do
      let text ← readScript name
      pure (some (name, text))
  let launch : Launch := {
    settingsPath := path
    settingsText := ← readText? path
    overrides := {
      link1 := ← IO.getEnv "ARMSIM_LINK1"
      link2 := ← IO.getEnv "ARMSIM_LINK2"
      maxSpeedDegrees := ← IO.getEnv "ARMSIM_MAX_JOINT_SPEED_DEG"
      frameRate := ← IO.getEnv "ARMSIM_FRAME_RATE_HZ" }
    script := script }
  match launch.start with
  | .finished t =>
    perform directory path t
    return t.exitCode.toUInt32
  | .shell t steps bench =>
    perform directory path t
    serve steps bench
    return 0

end PlanarArm.Program

/-- Runs the program with the arguments it was called with. -/
def main (args : List String) : IO UInt32 :=
  PlanarArm.Program.run args
