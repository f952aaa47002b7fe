import PlanarArm.Arm.Model
import PlanarArm.Command.Basic
import PlanarArm.Command.Completion
import PlanarArm.Command.Timestamp
import PlanarArm.Json.Record
import PlanarArm.Json.Wanted

/-!
# The stored forms

How arms, commands and their results are stored as JSON values (`toRecord`) and read back
(`ofRecord?`). What is stored comes back as it was as long as its numbers are finite; a number that
is not becomes `null`, which is not read.

A record passes over members that are no fields of it; `recordParts` says what it wants of a value.
A command and its kind want all of it.
-/

namespace PlanarArm

/-! ## Geometry -/

/-- The stored form of a point. -/
def Point.toRecord (p : Point Float) : Json :=
  .object [("x", .ofFloat p.x), ("y", .ofFloat p.y)]

/-- The parts of a value that a point is read from. -/
def Point.recordParts : Json.Wanted :=
  .fields [("x", .whole), ("y", .whole)]

/-- Reads a point. -/
def Point.ofRecord? (json : Json) : Option (Point Float) :=
  match json.record? ["x", "y"] with
  | some [x, y] => do return ⟨← Json.required? Json.float? x, ← Json.required? Json.float? y⟩
  | _ => none

/-- The stored form of a joint range. -/
def JointRange.toRecord (r : JointRange Float) : Json :=
  .object [("min", .ofFloat r.lo), ("max", .ofFloat r.hi)]

/-- The parts of a value that a joint range is read from. -/
def JointRange.recordParts : Json.Wanted :=
  .fields [("min", .whole), ("max", .whole)]

/-- Reads a joint range, which is not checked. -/
def JointRange.ofRecord? (json : Json) : Option (JointRange Float) :=
  match json.record? ["min", "max"] with
  | some [lo, hi] => do return ⟨← Json.required? Json.float? lo, ← Json.required? Json.float? hi⟩
  | _ => none

/-- The stored form of an arm. -/
def ArmModel.toRecord (m : ArmModel Float) : Json :=
  .object [("link1", .ofFloat m.link1), ("link2", .ofFloat m.link2),
    ("limits", .array [m.shoulder.toRecord, m.elbow.toRecord]),
    ("max_joint_speed", .ofFloat m.maxSpeed)]

/-- The parts of a value that an arm is read from. -/
def ArmModel.recordParts : Json.Wanted :=
  .fields [("link1", .whole), ("link2", .whole), ("limits", .items JointRange.recordParts),
    ("max_joint_speed", .whole)]

/-- Reads an arm, which is not checked. -/
def ArmModel.ofRecord? (json : Json) : Option (ArmModel Float) :=
  match json.record? ["link1", "link2", "limits", "max_joint_speed"] with
  | some [link1, link2, limits, speed] => do
    let link1 ← Json.required? Json.float? link1
    let link2 ← Json.required? Json.float? link2
    let (shoulder, elbow) ← Json.required? (Json.two? JointRange.ofRecord?) limits
    let speed ← Json.required? Json.float? speed
    return ⟨link1, link2, shoulder, elbow, speed⟩
  | _ => none

/-! ## Commands -/

/-- The stored form of an identifier. -/
def CommandId.toRecord (id : CommandId) : Json :=
  .string id.text

/-- Reads an identifier. -/
def CommandId.ofRecord? (json : Json) : Option CommandId :=
  json.string?.map CommandId.mk

namespace CommandKind

/-- The members that store a kind: its name, then its fields. -/
def recordMembers : CommandKind Float → List (String × Json)
  | .home => [("kind", .string "HOME")]
  | .setJoints q =>
    [("kind", .string "SET_JOINTS"), ("deg", .array [.ofFloat q.shoulder, .ofFloat q.elbow])]
  | .moveTo p => [("kind", .string "MOVE_TO"), ("x", .ofFloat p.x), ("y", .ofFloat p.y)]
  | .sleep seconds => [("kind", .string "SLEEP"), ("seconds", .ofFloat seconds)]
  | .lineTo p steps =>
    [("kind", .string "LINE_TO"), ("x", .ofFloat p.x), ("y", .ofFloat p.y),
      ("steps", .ofNat steps)]
  | .unknown name => [("kind", .string "UNKNOWN"), ("name", .string name)]

/-- The stored form of a kind. -/
def toRecord (kind : CommandKind Float) : Json :=
  .object kind.recordMembers

/-- The names of the kinds, in order. -/
def recordNames : List String :=
  ["HOME", "SET_JOINTS", "MOVE_TO", "SLEEP", "LINE_TO", "UNKNOWN"]

/-- Reads the kind with a given name from its fields. -/
def ofFields? (name : String) (fields : Json) : Option (CommandKind Float) :=
  match name with
  | "HOME" =>
    match fields with
    | .object _ | .array [] => some .home
    | _ => none
  | "SET_JOINTS" =>
    match fields.record? ["deg"] with
    | some [deg] => do
      let (shoulder, elbow) ← Json.required? (Json.two? Json.float?) deg
      return .setJoints ⟨shoulder, elbow⟩
    | _ => none
  | "MOVE_TO" => (Point.ofRecord? fields).map .moveTo
  | "SLEEP" =>
    match fields.record? ["seconds"] with
    | some [seconds] => (Json.required? Json.float? seconds).map .sleep
    | _ => none
  | "LINE_TO" =>
    match fields.record? ["x", "y", "steps"] with
    | some [x, y, steps] => do
      let x ← Json.required? Json.float? x
      let y ← Json.required? Json.float? y
      let steps ← Json.required? Json.word32? steps
      return .lineTo ⟨x, y⟩ steps
    | _ => none
  | "UNKNOWN" =>
    match fields.record? ["name"] with
    | some [name] => (Json.required? Json.string? name).map .unknown
    | _ => none
  | _ => none

/-- Reads a kind from members, one of which names it. -/
def ofMembers? (name? : Json → Option String) (members : List (String × Json)) :
    Option (CommandKind Float) := do
  let tag ← Json.fieldOf? members "kind"
  let name ← tag.bind name?
  ofFields? name (.object (members.filter (·.1 ≠ "kind")))

/-- Reads a kind. -/
def ofRecord? : Json → Option (CommandKind Float)
  | .object members => ofMembers? Json.string? members
  | .array (.string name :: fields) => ofFields? name (.array fields)
  | _ => none

end CommandKind

namespace Command

/-- The stored form of a command: the identifier stands beside the members of the kind. -/
def toRecord (c : Command Float) : Json :=
  .object (("id", c.id.toRecord) :: c.kind.recordMembers)

/-- The name of a kind, which beside an identifier may be given by its number in the list of
kinds. -/
def kindName? : Json → Option String
  | .string name => some name
  | .number (.whole n) => if 0 ≤ n then CommandKind.recordNames[n.toNat]? else none
  | _ => none

/-- Reads a command. -/
def ofRecord? : Json → Option (Command Float)
  | .object members => do
    let id ← Json.fieldOf? members "id"
    let id ← Json.required? CommandId.ofRecord? id
    let kind ← CommandKind.ofMembers? kindName? (members.filter (·.1 ≠ "id"))
    return ⟨id, kind⟩
  | _ => none

end Command

/-! ## Results -/

/-- The stored form of a branch. -/
def Branch.toRecord (b : Branch) : Json :=
  .string b.name

/-- Reads a branch. -/
def Branch.ofRecord? (json : Json) : Option Branch :=
  match json.variant? with
  | some ("elbow-up", .null) => some .elbowUp
  | some ("elbow-down", .null) => some .elbowDown
  | _ => none

/-- The stored form of a note. -/
def Note.toRecord (n : Note) : Json :=
  .string n.name

/-- Reads a note. -/
def Note.ofRecord? (json : Json) : Option Note :=
  match json.variant? with
  | some ("expanded", .null) => some .expanded
  | _ => none

/-- The stored form of what there is to say about a success. -/
def Completion.toRecord (c : Completion) : Json :=
  .object c.members

/-- The parts of a value that is read as what there is to say about a success. -/
def Completion.recordParts : Json.Wanted :=
  .fields [("ik", .whole), ("note", .whole)]

/-- Reads what there is to say about a success. -/
def Completion.ofRecord? (json : Json) : Option Completion :=
  match json.record? ["ik", "note"] with
  | some [branch, note] => do
    return ⟨← Json.optional? Branch.ofRecord? branch, ← Json.optional? Note.ofRecord? note⟩
  | _ => none

/-- The stored form of an error. -/
def ArmError.toRecord : ArmError Float → Json
  | .unreachable p => .object [("Unreachable", p.toRecord)]
  | .jointLimits p => .object [("JointLimitExceeded", p.toRecord)]
  | .unknownCommand name => .object [("UnknownCommand", .string name)]
  | .stopped => .string "Stopped"
  | .invalidArgument reason => .object [("InvalidArgument", .string reason)]
  | .channel reason => .object [("Channel", .string reason)]
  | .emptyRange => .string "EmptyRange"

/-- The parts of a value that an error is read from. -/
def ArmError.recordParts : Json.Wanted :=
  .fields [("Unreachable", Point.recordParts), ("JointLimitExceeded", Point.recordParts),
    ("UnknownCommand", .whole), ("Stopped", .whole), ("InvalidArgument", .whole),
    ("Channel", .whole)]

/-- Reads an error. -/
def ArmError.ofRecord? (json : Json) : Option (ArmError Float) :=
  match json.variant? with
  | some ("Unreachable", p) => (Point.ofRecord? p).map .unreachable
  | some ("JointLimitExceeded", p) => (Point.ofRecord? p).map .jointLimits
  | some ("UnknownCommand", name) => name.string?.map .unknownCommand
  | some ("Stopped", .null) => some .stopped
  | some ("InvalidArgument", reason) => reason.string?.map .invalidArgument
  | some ("Channel", reason) => reason.string?.map .channel
  | _ => none

/-- The stored form of a result. -/
def resultRecord : CommandResult Float → Json
  | .ok c => .object [("Ok", c.toRecord)]
  | .error e => .object [("Err", e.toRecord)]

/-- The parts of a value that a result is read from. -/
def resultRecordParts : Json.Wanted :=
  .fields [("Ok", Completion.recordParts), ("Err", ArmError.recordParts)]

/-- Reads a result. -/
def resultOfRecord? (json : Json) : Option (CommandResult Float) :=
  match json.loaded? with
  | some ("Ok", c) => (Completion.ofRecord? c).map .ok
  | some ("Err", e) => (ArmError.ofRecord? e).map .error
  | _ => none

/-- The stored form of a report, the time of which is left to whoever stores it. -/
def CompletionEvent.toRecord (e : CompletionEvent Float) : Json :=
  .object [("id", e.id.toRecord), ("result", resultRecord e.result)]

/-- The parts of a value that a report is read from. -/
def CompletionEvent.recordParts : Json.Wanted :=
  .fields [("id", .whole), ("timestamp", .whole), ("result", resultRecordParts)]

/-- Reads a report, which has to carry a time. -/
def CompletionEvent.ofRecord? (json : Json) : Option (CompletionEvent Float) :=
  match json.record? ["id", "timestamp", "result"] with
  | some [id, timestamp, result] => do
    let id ← Json.required? CommandId.ofRecord? id
    let timestamp ← Json.required? Json.string? timestamp
    let result ← Json.required? resultOfRecord? result
    if Timestamp.isValid timestamp then some ⟨id, result⟩ else none
  | _ => none

end PlanarArm
