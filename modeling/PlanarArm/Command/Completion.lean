import PlanarArm.Arm.Kinematics
import PlanarArm.Command.Id
import PlanarArm.Json.Basic

/-!
# Completions

A command leaves the arm with exactly one result. The report of it that goes out is an object with
the identifier and either what there is to say about a success or the word for a failure.
-/

namespace PlanarArm

/-- A remark on a success that moved nothing. -/
inductive Note where
  /-- The command was replaced by numbered ones. -/
  | expanded
deriving DecidableEq, Repr

/-- The word for a note in messages. -/
def Note.name : Note → String
  | .expanded => "expanded"

/-- What there is to say about a success. -/
structure Completion where
  /-- The branch that reached the target of a command given as a point. -/
  branch : Option Branch
  /-- A remark. -/
  note : Option Note
deriving DecidableEq, Repr

namespace Completion

/-- A success without remarks. -/
def done : Completion :=
  ⟨none, none⟩

/-- A success by way of a branch. -/
def reached (branch : Branch) : Completion :=
  ⟨some branch, none⟩

/-- The success of a command that was replaced by numbered ones. -/
def expanded : Completion :=
  ⟨none, some .expanded⟩

/-- The members that state what there is to say. -/
def members (c : Completion) : List (String × Json) :=
  (c.branch.map fun b => ("ik", Json.string b.name)).toList ++
    (c.note.map fun n => ("note", Json.string n.name)).toList

end Completion

/-- How a command ended. -/
abbrev CommandResult (α : Type) :=
  Except (ArmError α) Completion

/-- The report that a command has ended. -/
structure CompletionEvent (α : Type) where
  /-- The command. -/
  id : CommandId
  /-- How it ended. -/
  result : CommandResult α

namespace CompletionEvent

variable {α : Type}

/-- Whether the command succeeded. -/
def isOk (e : CompletionEvent α) : Bool :=
  match e.result with
  | .ok _ => true
  | .error _ => false

/-- The report as it goes out, with its members in alphabetical order. -/
def toWire (e : CompletionEvent α) : Json :=
  match e.result with
  | .ok c => .object (("id", .string e.id.text) :: c.members ++ [("ok", .bool true)])
  | .error error =>
    .object [("error", .string error.code), ("id", .string e.id.text), ("ok", .bool false)]

end CompletionEvent

end PlanarArm
