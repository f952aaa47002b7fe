import PlanarArm.Command.Wire
import PlanarArm.Text.Blank

/-!
# The statements of a script

A line of a script is blank, a comment, a message in JSON (it starts with a brace), or a keyword
with its arguments. Keywords are read without regard to the case of letters; `#` starts a comment.
`Statement.parse` reads one line.
-/

namespace PlanarArm

/-- What a line of a script asks for. -/
inductive Statement where
  /-- Run a command under an identifier of its own. -/
  | run (kind : CommandKind Float)
  /-- Run a command under the identifier that its sender chose. -/
  | wire (command : Command Float)
  /-- Set the speed scale. -/
  | speed (value : Float)
  /-- Forget the path of the hand. -/
  | resetPath
  /-- Abort all commands. -/
  | stop
  /-- Abort all commands and start afresh. -/
  | reset
  /-- Report the state of the arm. -/
  | status

namespace Statement

/-- A complaint about a line. -/
def refuse {β : Type} (reason : String) : Except (ArmError Float) β :=
  .error (.invalidArgument reason)

/-- Accepts at most `most` arguments. -/
def atMost (keyword : String) (args : List String) (most : Nat) : Except (ArmError Float) Unit :=
  if args.length ≤ most then .ok ()
  else refuse (keyword ++ " takes at most " ++ most.repr ++ " argument(s)")

/-- The argument at a place, which has to be a number; `what` says what the keyword expects. -/
def argument (keyword : String) (args : List String) (place : Nat) (what : String) :
    Except (ArmError Float) Float :=
  match args[place]? with
  | none => refuse (keyword ++ " expects " ++ what)
  | some raw =>
    match Decimal.read? raw with
    | some x => .ok x
    | none => refuse (keyword ++ ": '" ++ raw ++ "' is not a number")

/-- The first two arguments. -/
def twoArguments (keyword : String) (args : List String) (what : String) :
    Except (ArmError Float) (Float × Float) := do
  let a ← argument keyword args 0 what
  let b ← argument keyword args 1 what
  return (a, b)

/-- The number of points of a line: the third argument, or `steps` if there is none. -/
def stepsArgument (keyword : String) (args : List String) (steps : Nat) :
    Except (ArmError Float) Nat :=
  if 2 < args.length then (argument keyword args 2 "a step count").map lineSteps
  else .ok steps

/-- The statement of a keyword and its arguments; `steps` is the number of points of a line that
does not give it. -/
def ofWords (steps : Nat) (keyword : String) (args : List String) :
    Except (ArmError Float) Statement :=
  match String.ofList (Text.lower keyword.toList) with
  | "home" => do
    atMost keyword args 0
    return .run .home
  | "set_joints" => do
    atMost keyword args 2
    let (shoulder, elbow) ← twoArguments keyword args "two angles"
    return .run (.setJoints ⟨shoulder, elbow⟩)
  | "move_to" => do
    atMost keyword args 2
    let (x, y) ← twoArguments keyword args "x and y"
    return .run (.moveTo ⟨x, y⟩)
  | "sleep" => do
    atMost keyword args 1
    let seconds ← argument keyword args 0 "a duration"
    return .run (.sleep seconds)
  | "line_to" => do
    atMost keyword args 3
    let steps ← stepsArgument keyword args steps
    let (x, y) ← twoArguments keyword args "x and y"
    return .run (.lineTo ⟨x, y⟩ steps)
  | "speed" => do
    atMost keyword args 1
    let value ← argument keyword args 0 "a speed scale"
    return .speed value
  | "reset_path" => .ok .resetPath
  | "stop" => .ok .stop
  | "reset" => .ok .reset
  | "status" => .ok .status
  | other => refuse ("unknown statement '" ++ other ++ "'")

/-- The words of a line before its comment. -/
def codeWords (line : List Char) : List String :=
  (Text.words (line.takeWhile (· ≠ '#'))).map String.ofList

/-- Reads a line; a blank or a comment is no statement. -/
def parse (steps : Nat) (line : String) : Except (ArmError Float) (Option Statement) :=
  match Text.trim line.toList with
  | [] => .ok none
  | '#' :: _ => .ok none
  | '\x7b' :: rest =>
    (Command.ofWireText (String.ofList ('\x7b' :: rest))).map fun c => some (.wire c)
  | code =>
    match codeWords code with
    | [] => .ok none
    | keyword :: args => (ofWords steps keyword args).map some

end Statement

end PlanarArm
