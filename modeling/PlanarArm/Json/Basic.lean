/-!
# JSON values

A value keeps the order and the repetition of an object's members as they were written. A look-up
(`Json.get?`) sees the last member of a name.
-/

namespace PlanarArm

/-- A number of a JSON text: whole numbers that fit a machine word stay exact. -/
inductive JsonNumber where
  /-- A whole number. -/
  | whole (n : Int)
  /-- Any other number. -/
  | double (x : Float)

/-- A JSON value. -/
inductive Json where
  | null
  | bool (b : Bool)
  | number (n : JsonNumber)
  | string (s : String)
  | array (items : List Json)
  | object (members : List (String × Json))

/-- The number as a double. -/
def JsonNumber.toFloat : JsonNumber → Float
  | .whole n => Float.ofInt n
  | .double x => x

namespace Json

instance : Inhabited Json := ⟨.null⟩

/-- A whole number. -/
def ofInt (n : Int) : Json :=
  .number (.whole n)

/-- A natural number. -/
def ofNat (n : Nat) : Json :=
  .number (.whole n)

/-- A double. JSON has no name for one that is not finite, which becomes `null`. -/
def ofFloat (x : Float) : Json :=
  if x.isFinite then .number (.double x) else .null

/-- The last value under `key` in a list of members. -/
def lastOf (key : String) : List (String × Json) → Option Json
  | [] => none
  | (name, value) :: rest =>
    match lastOf key rest with
    | some later => some later
    | none => if name = key then some value else none

/-- The members of an object. -/
def members? : Json → Option (List (String × Json))
  | .object members => some members
  | _ => none

/-- The member of an object under `key`. -/
def get? (key : String) (json : Json) : Option Json :=
  json.members?.bind (lastOf key)

/-- The items of an array. -/
def items? : Json → Option (List Json)
  | .array items => some items
  | _ => none

/-- The text of a string. -/
def string? : Json → Option String
  | .string s => some s
  | _ => none

/-- The value of a number, rounded to a double. -/
def float? : Json → Option Float
  | .number n => some n.toFloat
  | _ => none

/-- The value of a whole number. -/
def int? : Json → Option Int
  | .number (.whole n) => some n
  | _ => none

/-- The truth value of a Boolean. -/
def bool? : Json → Option Bool
  | .bool b => some b
  | _ => none

end Json

end PlanarArm
