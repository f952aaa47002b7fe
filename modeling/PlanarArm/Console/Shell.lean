import PlanarArm.Command.Schema
import PlanarArm.Script.Outcome

/-!
# The shell

At its prompt the shell takes the statements of scripts, one a line, and a few words of its own that
start with a slash. A line that is wrong is answered with what is wrong, and the shell goes on.
-/

namespace PlanarArm.Shell

/-! ## Texts -/

/-- What stands before a line that is to be entered. -/
def prompt : String :=
  "armsim> "

/-- Several lines of text. -/
def unlines (lines : List String) : String :=
  String.join (lines.map (· ++ "\n"))

/-- What is shown when the shell starts. -/
def banner : String :=
  unlines ["",
    "   ___                 _         ",
    "  / _ | ______ _  ___ (_)_ _    ",
    " / __ |/ __/  ' \\(_-</ /  ' \\   ",
    "/_/ |_/_/ /_/_/_/___/_/_/_/_/   ",
    "",
    "  armsim v0.1.0",
    "  Two-link planar arm simulator",
    ""]

/-- How to get help. -/
def hint : String :=
  unlines ["  Type /help for a list of commands.", ""]

/-- The help. -/
def help : String :=
  unlines ["",
    "Arm statements",
    "  home                    – drive both joints to 0°",
    "  set_joints A B         – drive to joint angles (degrees)",
    "  move_to X Y              – move the effector to (x, y)",
    "  line_to X Y [STEPS]   – straight line, optional step count",
    "  sleep S                 – wait S seconds",
    "  speed V                 – set the speed scale (0..1)",
    "  reset_path              – clear the toolpath",
    "  stop                    – abort running and queued commands",
    "  reset                   – stop, home, default speed, clear path",
    "  status                  – show the arm state",
    "  \x7b\"id\": …\x7d                – a raw wire command",
    "",
    "Shell",
    "  /schema   – JSON schema of wire commands",
    "  /quit  /exit  – exit the shell",
    ""]

/-! ## Lines -/

/-- What a line asks the shell for. -/
inductive Entry where
  /-- Nothing. -/
  | blank
  /-- The help. -/
  | help
  /-- The schema of commands. -/
  | schema
  /-- The end. -/
  | quit
  /-- Something that starts with a slash and means nothing. -/
  | unknown (text : String)
  /-- A statement, perhaps. -/
  | statement (text : String)

/-- What a line asks for. -/
def Entry.ofLine (line : String) : Entry :=
  match Text.trim line.toList with
  | [] => .blank
  | c :: cs =>
    let text := String.ofList (c :: cs)
    if text = "/help" then .help
    else if text = "/schema" then .schema
    else if text = "/quit" ∨ text = "/exit" then .quit
    else if c = '/' then .unknown text
    else .statement text

variable {m : Type → Type} [Monad m] [Agent Float m]

/-- Carries out a statement; gives the text to show. -/
def carryOut (steps : Nat) (text : String) : m String := do
  match Statement.parse steps text with
  | .error e => return "Parse error: " ++ e.message ++ "\n"
  | .ok none => return ""
  | .ok (some statement) =>
    match ← statement.execute with
    | .error e => return "Simulation unavailable: " ++ e.message ++ "\n"
    | .ok outcome => return "  " ++ outcome.toLine.compact ++ "\n"

/-- Answers a line; gives the text to show, and whether the shell goes on. -/
def respond (steps : Nat) (line : String) : m (String × Bool) := do
  match Entry.ofLine line with
  | .blank => return ("", true)
  | .help => return (help, true)
  | .schema => return (Schema.command.pretty ++ "\n", true)
  | .quit => return ("Goodbye.\n", false)
  | .unknown text =>
    return ("Unknown command: '" ++ text ++ "'. Type /help for available commands.\n", true)
  | .statement text => return (← carryOut steps text, true)

/-- Answers lines until one asks for the end or there are no more; gives the text to show, prompts
included. -/
def run (steps : Nat) : List String → m String
  | [] => return prompt
  | line :: rest => do
    let (text, goesOn) ← respond steps line
    if goesOn then return prompt ++ text ++ (← run steps rest) else return prompt ++ text

end PlanarArm.Shell
