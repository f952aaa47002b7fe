/-!
# Tables of settings

The values of a TOML text, and how a table grows line by line. A table cannot be defined twice, and
neither can a key; whether a table may still be added to depends on how it came about
(`TableKind`).
-/

namespace PlanarArm.Toml

/-- How a table came about. -/
inductive TableKind where
  /-- It has a header of its own, or is the table of the whole text. -/
  | headed
  /-- It is named on the way to another table in a header. -/
  | implied
  /-- It is named on the way to a value in a dotted key. -/
  | dotted
  /-- It is written out between braces, and nothing can be added to it. -/
  | inline
deriving DecidableEq, Repr

/-- A value, or a table. -/
inductive Item where
  | string (s : String)
  | integer (n : Int)
  | float (x : Float)
  | bool (b : Bool)
  /-- A date, a time of day, or both. -/
  | datetime
  | array (items : List Item)
  | table (kind : TableKind) (members : List (String × Item))
  /-- Tables that share a header, first one first. -/
  | tables (elements : List (List (String × Item)))

/-- The keys of a table with their values. -/
abbrev Members :=
  List (String × Item)

namespace Members

/-- The value under a key. -/
def find? (members : Members) (key : String) : Option Item :=
  members.lookup key

/-- Puts a value under a key, in the place of the one that was there. -/
def put (members : Members) (key : String) (item : Item) : Members :=
  if (members.find? key).isSome then
    members.map fun (name, old) => if name = key then (name, item) else (name, old)
  else members ++ [(key, item)]

/-- Adds a value under a new key of a table of some kind. Values of a dotted key go to tables that
came about by dotted keys, and those of a plain key to others. -/
def define (plain : Bool) (key : String) (item : Item) (kind : TableKind) (members : Members) :
    Option Members :=
  if (kind == .dotted) == plain then none
  else if (members.find? key).isSome then none
  else some (members ++ [(key, item)])

/-- Changes the table at the end of a path by `change`. Tables on the way that do not exist come
about as `new`; an existing one has to be open to `new`. Of tables that share a header the last one
is on the way. -/
def update (new : TableKind) (change : TableKind → Members → Option Members) :
    List String → TableKind → Members → Option Members
  | [], kind, members => change kind members
  | key :: path, _, members =>
    match members.find? key with
    | none => do
      let inner ← update new change path new []
      return members.put key (.table new inner)
    | some (.table kind inner) =>
      if kind = .inline || (new = .dotted && kind = .headed) then none
      else do
        let inner ← update new change path kind inner
        return members.put key (.table kind inner)
    | some (.tables elements) =>
      match elements.getLast? with
      | none => none
      | some last => do
        let last ← update new change path .headed last
        return members.put key (.tables (elements.dropLast ++ [last]))
    | some _ => none

/-- Adds a value under a dotted key, the parts of which before the last are `path`. -/
def addAt (path : List String) (key : String) (item : Item) (kind : TableKind)
    (members : Members) : Option Members :=
  update .dotted (define path.isEmpty key item) path kind members

/-- Opens the table with a header. -/
def openTable (key : String) (_kind : TableKind) (members : Members) : Option Members :=
  match members.find? key with
  | none => some (members ++ [(key, .table .headed [])])
  | some (.table .implied inner) => some (members.put key (.table .headed inner))
  | some _ => none

/-- Opens one more table with a header that tables share. -/
def openElement (key : String) (_kind : TableKind) (members : Members) : Option Members :=
  match members.find? key with
  | none => some (members ++ [(key, .tables [[]])])
  | some (.tables elements) => some (members.put key (.tables (elements ++ [[]])))
  | some _ => none

end Members

/-! ## Reading values of a type -/

namespace Item

/-- The value of a number. -/
def float? : Item → Option Float
  | .float x => some x
  | .integer n => some (Float.ofInt n)
  | _ => none

/-- The value of a whole number below `2 ^ 32` that is not negative. -/
def word32? : Item → Option Nat
  | .integer n => if 0 ≤ n ∧ n < Nat.pow 2 32 then some n.toNat else none
  | _ => none

/-- The first two numbers of an array. -/
def floatPair? : Item → Option (Float × Float)
  | .array (a :: b :: _) => do return (← a.float?, ← b.float?)
  | _ => none

end Item

end PlanarArm.Toml
