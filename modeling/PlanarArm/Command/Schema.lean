import PlanarArm.Json.Basic

/-!
# The schema of commands

A JSON Schema that describes the stored form of a command, for senders that check a message before
they send it: one alternative for each kind, and the identifier beside them.
-/

namespace PlanarArm.Schema

/-- A schema that asks for a type alone. -/
def typed (type : String) : Json :=
  .object [("type", .string type)]

/-- The schema of a double. -/
def double : Json :=
  .object [("type", .string "number"), ("format", .string "double")]

/-- The schema of a natural number below `2 ^ 32`. -/
def word32 : Json :=
  .object [("type", .string "integer"), ("format", .string "uint32"), ("minimum", .ofFloat 0.0)]

/-- The schema of a pair of doubles. -/
def doublePair : Json :=
  .object [("type", .string "array"), ("items", double), ("maxItems", .ofNat 2),
    ("minItems", .ofNat 2)]

/-- The schema of one text. -/
def only (text : String) : Json :=
  .object [("type", .string "string"), ("enum", .array [.string text])]

/-- The schema of a kind of command. The fields are in alphabetical order, and the name of the kind
has its place among them. -/
def kind (name description : String) (before after : List (String × Json)) : Json :=
  let fields := before ++ ("kind", only name) :: after
  .object [("description", .string description), ("type", .string "object"),
    ("required", .array (fields.map fun field => .string field.1)),
    ("properties", .object fields)]

/-- The schemas of all kinds. -/
def kinds : List Json :=
  [kind "HOME" "Drive both joints back to `[0, 0]`." [] [],
    kind "SET_JOINTS" "Drive to the given joint angles (degrees); clamped to the limits."
      [("deg", doublePair)] [],
    kind "MOVE_TO" "Drive the end-effector to `(x, y)` through inverse kinematics."
      [] [("x", double), ("y", double)],
    kind "SLEEP" "Occupy the engine for `seconds` without moving." [] [("seconds", double)],
    kind "LINE_TO" "Straight-line effector motion, expanded into `steps` `MOVE_TO`s."
      [] [("steps", word32), ("x", double), ("y", double)],
    kind "UNKNOWN" ("A kind the engine does not implement; fails with `unknown-cmd` when it " ++
      "reaches the head of the queue.") [] [("name", typed "string")]]

/-- The schema of a command. -/
def command : Json :=
  .object [("$schema", .string "http://json-schema.org/draft-07/schema#"),
    ("title", .string "Command"),
    ("description", .string "A command together with its correlation id."),
    ("type", .string "object"),
    ("oneOf", .array kinds),
    ("required", .array [.string "id"]),
    ("properties", .object [("id", typed "string")])]

end PlanarArm.Schema
