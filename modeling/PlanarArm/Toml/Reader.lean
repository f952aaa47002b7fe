import PlanarArm.Toml.Lexical

/-!
# Reading a TOML text

`Toml.parse?` gives the table of a whole text. Values that hold others are read with a bound on
their nesting.
-/

namespace PlanarArm.Toml

/-! ## Keys -/

/-- Whether a character may stand in a key without quotes. -/
def isBare (c : Char) : Bool :=
  c.isAlphanum || c = '_' || c = '-'

/-- One part of a key. -/
def keyPart? (fuel : Nat) : List Char → Option (String × List Char)
  | '"' :: cs => basicString? fuel [] cs
  | '\'' :: cs => literalString? [] cs
  | cs =>
    let name := cs.takeWhile isBare
    if name.isEmpty then none else some (String.ofList name, cs.dropWhile isBare)

/-- The parts of a key with points between them, and the blanks around them. -/
def key? (fuel : Nat) (cs : List Char) : Option (List String × List Char) :=
  match fuel with
  | 0 => none
  | fuel + 1 =>
    match keyPart? (fuel + 1) (skipGap cs) with
    | none => none
    | some (name, rest) =>
      match skipGap rest with
      | '.' :: rest => (key? fuel rest).map fun (names, rest) => (name :: names, rest)
      | rest => some ([name], rest)

/-- A key as the parts before the last, and the last. -/
def splitKey (names : List String) : List String × String :=
  (names.dropLast, names.getLastD "")

/-- The greatest depth of values within values, and the greatest number of parts of a key, and one
more. -/
def depthBound : Nat :=
  80

/-- The parts of a key, unless they are too many. -/
def shortKey? (fuel : Nat) (cs : List Char) : Option (List String × List Char) :=
  match key? fuel cs with
  | some (names, rest) => if names.length < depthBound then some (names, rest) else none
  | none => none

/-! ## Values -/

/-- A number, a date or a time. -/
def scalar? (cs : List Char) : Option (Item × List Char) :=
  match datetime? cs with
  | some none => none
  | some (some rest) => some (.datetime, rest)
  | none =>
    match based? cs with
    | some result => result
    | none => decimal? cs

mutual

/-- A value; `depth` is the number of values that it may hold within each other. -/
def value? (fuel depth : Nat) (cs : List Char) : Option (Item × List Char) :=
  match fuel, cs with
  | 0, _ => none
  | fuel + 1, '[' :: cs =>
    if depth ≤ 1 then none
    else (items? fuel (depth - 1) [] (skipLines fuel cs)).map fun (items, rest) =>
      (.array items, rest)
  | fuel + 1, '\x7b' :: cs =>
    if depth ≤ 1 then none
    else (inlineMembers? fuel (depth - 1) [] (skipGap cs)).map fun (members, rest) =>
      (.table .inline members, rest)
  | fuel + 1, '"' :: cs => (string? (fuel + 1) ('"' :: cs)).map fun (s, rest) => (.string s, rest)
  | fuel + 1, '\'' :: cs =>
    (string? (fuel + 1) ('\'' :: cs)).map fun (s, rest) => (.string s, rest)
  | _, 't' :: 'r' :: 'u' :: 'e' :: rest => some (.bool true, rest)
  | _, 'f' :: 'a' :: 'l' :: 's' :: 'e' :: rest => some (.bool false, rest)
  | _, cs => scalar? cs

/-- The items of an array up to its end, behind those of `done`, last first. -/
def items? (fuel depth : Nat) (done : List Item) (cs : List Char) :
    Option (List Item × List Char) :=
  match fuel, cs with
  | 0, _ => none
  | _, ']' :: rest => some (done.reverse, rest)
  | fuel + 1, cs =>
    match value? fuel depth cs with
    | none => none
    | some (item, rest) =>
      match skipLines fuel rest with
      | ',' :: rest => items? fuel depth (item :: done) (skipLines fuel rest)
      | ']' :: rest => some ((item :: done).reverse, rest)
      | _ => none

/-- The members of a table between braces up to its end, added to those of `done`. -/
def inlineMembers? (fuel depth : Nat) (done : Members) (cs : List Char) :
    Option (Members × List Char) :=
  match fuel, cs with
  | 0, _ => none
  | fuel + 1, cs =>
    match done, cs with
    | [], '\x7d' :: rest => some (done, rest)
    | _, _ =>
      match shortKey? fuel cs with
      | some (names, '=' :: rest) =>
        match value? fuel depth (skipGap rest) with
        | none => none
        | some (item, rest) =>
          let (path, key) := splitKey names
          match done.addAt path key item .inline, skipGap rest with
          | some members, ',' :: rest => inlineMembers? fuel depth members rest
          | some members, '\x7d' :: rest => some (members, rest)
          | _, _ => none
      | _ => none

end

/-! ## Lines -/

/-- What has been read of a text: its table, and the header that the lines which follow belong
to. -/
structure Reading where
  /-- The table of the whole text. -/
  root : Members
  /-- The parts of the header. -/
  header : List String

/-- Adds a value under a key of the table that the header names. -/
def Reading.add (r : Reading) (names : List String) (item : Item) : Option Reading :=
  let (path, key) := splitKey names
  let add := Members.addAt path key item
  (r.root.update .implied add r.header .headed).map fun root => ⟨root, r.header⟩

/-- Opens a table. -/
def Reading.open (r : Reading) (shared : Bool) (names : List String) : Option Reading :=
  let (path, key) := splitKey names
  let change := if shared then Members.openElement key else Members.openTable key
  (r.root.update .implied change path .headed).map fun root => ⟨root, names⟩

/-- A header behind its opening bracket or brackets, up to the end of the line. -/
def header? (fuel : Nat) (shared : Bool) (cs : List Char) :
    Option (List String × List Char) := do
  let (names, rest) ← shortKey? fuel cs
  let rest ← expect? ']' rest
  let rest ← if shared then expect? ']' rest else some rest
  let rest ← restOfLine? rest
  return (names, rest)

/-- Reads the text line by line. -/
def lines? (fuel : Nat) (r : Reading) (cs : List Char) : Option Reading :=
  match fuel, skipGap cs with
  | _, [] => some r
  | 0, _ => none
  | fuel + 1, '\n' :: rest => lines? fuel r rest
  | fuel + 1, '\r' :: '\n' :: rest => lines? fuel r rest
  | fuel + 1, '#' :: rest =>
    match lineEnd? (skipComment ('#' :: rest)) with
    | some rest => lines? fuel r rest
    | none => none
  | fuel + 1, '[' :: '[' :: rest =>
    match header? fuel true rest with
    | some (names, rest) =>
      match r.open true names with
      | some r => lines? fuel r rest
      | none => none
    | none => none
  | fuel + 1, '[' :: rest =>
    match header? fuel false rest with
    | some (names, rest) =>
      match r.open false names with
      | some r => lines? fuel r rest
      | none => none
    | none => none
  | fuel + 1, cs =>
    match shortKey? fuel cs with
    | some (names, '=' :: rest) =>
      match value? fuel depthBound (skipGap rest) with
      | none => none
      | some (item, rest) =>
        match restOfLine? rest, r.add names item with
        | some rest, some r => lines? fuel r rest
        | _, _ => none
    | _ => none

/-- The table of a text, if it is a TOML text. A mark of the byte order at its head is passed
over. -/
def parse? (text : String) : Option Members :=
  let cs := match text.toList with
    | '\ufeff' :: cs => cs
    | cs => cs
  (lines? (2 * cs.length + 2) ⟨[], []⟩ cs).map Reading.root

end PlanarArm.Toml
