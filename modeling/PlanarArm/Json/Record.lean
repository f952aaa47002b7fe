import PlanarArm.Json.Basic

/-!
# Records and variants as JSON values

The stored form of a record is an object with a member for each field; an array of the values in
order is read as well. Members that are no fields are passed over, and a field may not be repeated.
The stored form of a variant is its name, or an object with the name as its only member.
-/

namespace PlanarArm.Json

/-- The value of a field among members, `none` inside if it is missing. A repeated field is
refused. -/
def fieldOf? (members : List (String × Json)) (name : String) : Option (Option Json) :=
  match members.filter (·.1 = name) with
  | [] => some none
  | [(_, value)] => some (some value)
  | _ => none

/-- The values of the named fields of a record, with `none` for those that are missing. -/
def record? (names : List String) : Json → Option (List (Option Json))
  | .object members => names.mapM (fieldOf? members)
  | .array items =>
    if items.length ≤ names.length then
      some (items.map some ++ List.replicate (names.length - items.length) none)
    else none
  | _ => none

/-- The name of a variant and what is stored with it. -/
def variant? : Json → Option (String × Json)
  | .string name => some (name, .null)
  | .object [(name, value)] => some (name, value)
  | _ => none

/-- The name of a variant that is stored with a value of its own. -/
def loaded? : Json → Option (String × Json)
  | .object [(name, value)] => some (name, value)
  | _ => none

/-- Reads a value that may be absent or null. -/
def optional? {β : Type} (read : Json → Option β) : Option Json → Option (Option β)
  | none | some .null => some none
  | some value => (read value).map some

/-- Reads a value that has to be there. -/
def required? {β : Type} (read : Json → Option β) (value : Option Json) : Option β :=
  value.bind read

/-- Reads a natural number below `2 ^ 32`. -/
def word32? (json : Json) : Option Nat :=
  json.int?.bind fun n => if 0 ≤ n ∧ n < Nat.pow 2 32 then some n.toNat else none

/-- Reads an array of two values. -/
def two? {β : Type} (read : Json → Option β) : Json → Option (β × β)
  | .array [a, b] => do return (← read a, ← read b)
  | _ => none

end PlanarArm.Json
