import PlanarArm.Json.Basic

/-!
# The wanted parts of a JSON value

Who reads a record passes over the members that are no fields of it. `Wanted` says which parts of a
value that leaves, so that the others need not be evaluated: each of them is read as `null`.
-/

namespace PlanarArm.Json

/-- Which parts of a value are wanted. -/
inductive Wanted where
  /-- All of it. -/
  | whole
  /-- None of it. -/
  | nothing
  /-- Of an object the members with these names, of an array the items in the places of the names;
  in each of them what stands beside the name. -/
  | fields (names : List (String × Wanted))
  /-- Of an array all items, in each of them the same. -/
  | items (each : Wanted)

namespace Wanted

/-- What is wanted of the member `name` of an object. -/
def member (name : String) : Wanted → Wanted
  | .whole | .items _ => .whole
  | .nothing => .nothing
  | .fields names => (names.lookup name).getD .nothing

/-- What is wanted of the item of an array at a place. An item behind the last field is one too many
for those who read the array, and wanted so that they see it. -/
def item (place : Nat) : Wanted → Wanted
  | .whole => .whole
  | .nothing => .nothing
  | .fields names => (names[place]?.map Prod.snd).getD .whole
  | .items each => each

/-- A value as it is read: one that is not wanted is passed over. -/
def keep (wanted : Wanted) (value : Json) : Json :=
  match wanted with
  | .nothing => .null
  | _ => value

/-- A value that a token may lack. One that is wanted has to be there. -/
def keep? {β : Type} (wanted : Wanted) (unread : β) (value : Option β) : Option β :=
  match wanted with
  | .nothing => some unread
  | _ => value

/-- Whether one more array or object may be opened within so many others. -/
def admits (wanted : Wanted) (depth limit : Nat) : Bool :=
  match wanted with
  | .nothing => true
  | _ => depth < limit

end Wanted

end PlanarArm.Json
