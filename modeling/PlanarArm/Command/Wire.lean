import PlanarArm.Command.Basic
import PlanarArm.Json.Reader
import PlanarArm.Json.Writer

/-!
# Commands as messages

A command comes in as an object with an `id`, a `kind` and the fields of that kind. A kind that is
not known is no error here: the command is accepted and fails in its turn.
-/

namespace PlanarArm.Command

/-- A complaint about a message. -/
def refuse {β : Type} (reason : String) : Except (ArmError Float) β :=
  .error (.invalidArgument reason)

/-- The identifier of a message: a text that is not empty, or a number, which is then its text. -/
def wireId (message : Json) : Except (ArmError Float) CommandId :=
  match message.get? "id" with
  | some (.string s) =>
    if s.isEmpty then refuse "command is missing a string 'id'" else .ok ⟨s⟩
  | some (.number n) => .ok ⟨n.text⟩
  | _ => refuse "command is missing a string 'id'"

/-- A number that the kind requires. -/
def wireNumber (message : Json) (kind field : String) : Except (ArmError Float) Float :=
  match (message.get? field).bind Json.float? with
  | some x => .ok x
  | none => refuse (kind ++ " requires a numeric '" ++ field ++ "'")

/-- The point that the kind requires. -/
def wirePoint (message : Json) (kind : String) : Except (ArmError Float) (Point Float) := do
  let x ← wireNumber message kind "x"
  let y ← wireNumber message kind "y"
  return ⟨x, y⟩

/-- An entry of the list of angles. -/
def wireAngle (index : String) (entry : Json) : Except (ArmError Float) Float :=
  match entry.float? with
  | some x => .ok x
  | none => refuse ("SET_JOINTS deg[" ++ index ++ "] must be a number")

/-- The angles in degrees, the first two of a list. -/
def wireAngles (message : Json) : Except (ArmError Float) (JointPair Float) :=
  match (message.get? "deg").bind Json.items? with
  | none => refuse "SET_JOINTS requires a 'deg' array"
  | some (first :: second :: _) => do
    let shoulder ← wireAngle "0" first
    let elbow ← wireAngle "1" second
    return ⟨shoulder, elbow⟩
  | some few =>
    refuse ("SET_JOINTS requires at least 2 angles, got " ++ few.length.repr)

/-- The number of points of a straight line. -/
def wireSteps (message : Json) : Except (ArmError Float) Nat :=
  match message.get? "steps" with
  | none | some .null => .ok standardLineSteps
  | some _ => (wireNumber message "LINE_TO" "steps").map lineSteps

/-- The kind with this name and its fields. -/
def wireKind (message : Json) (name : String) : Except (ArmError Float) (CommandKind Float) :=
  match name with
  | "HOME" => .ok .home
  | "SET_JOINTS" => (wireAngles message).map .setJoints
  | "MOVE_TO" => (wirePoint message name).map .moveTo
  | "SLEEP" => (wireNumber message name "seconds").map .sleep
  | "LINE_TO" => do
    let steps ← wireSteps message
    let target ← wirePoint message name
    return .lineTo target steps
  | other => .ok (.unknown other)

/-- The command that a message asks for. -/
def ofWire (message : Json) : Except (ArmError Float) (Command Float) :=
  match message with
  | .object _ => do
    let id ← wireId message
    match (message.get? "kind").bind Json.string? with
    | none => refuse "command is missing a string 'kind'"
    | some name =>
      let kind ← wireKind message name
      return ⟨id, kind⟩
  | _ => refuse "command must be a JSON object"

/-- The command that a text asks for. What is wrong with a text that is no JSON is not told any
further. -/
def ofWireText (text : String) : Except (ArmError Float) (Command Float) :=
  match Json.parse? text with
  | some message => ofWire message
  | none => refuse "malformed command JSON"

end PlanarArm.Command
