import PlanarArm.Decimal.Shortest
import PlanarArm.Json.Basic

/-!
# Writing a JSON text

Two layouts: on one line without blanks (`Json.compact`), and one member or item a line, indented by
two blanks (`Json.pretty`). A number has the fewest digits that read back, and one that is not
finite is written as `null`.
-/

namespace PlanarArm

/-- The text of a number, as it also serves for an identifier given as a number. -/
def JsonNumber.text : JsonNumber → String
  | .whole n => toString n
  | .double x => if x.isFinite then Decimal.numberText x else "null"

namespace Json

/-- The hexadecimal digit of a number below sixteen. -/
def hexDigit (n : Nat) : Char :=
  if n < 10 then Char.ofNat ('0'.toNat + n) else Char.ofNat ('a'.toNat + n - 10)

/-- A character as it stands between quotes. -/
def escape (c : Char) : String :=
  match c with
  | '"' => "\\\""
  | '\\' => "\\\\"
  | '\x08' => "\\b"
  | '\x0c' => "\\f"
  | '\n' => "\\n"
  | '\r' => "\\r"
  | '\t' => "\\t"
  | c =>
    if c.toNat < 0x20 then
      "\\u00" ++ ((hexDigit (c.toNat / 16)).toString ++ (hexDigit (c.toNat % 16)).toString)
    else c.toString

/-- A text between quotes. -/
def quoted (s : String) : String :=
  s.foldl (fun done c => done ++ escape c) "\"" ++ "\""

mutual

/-- A value on one line. -/
def compact : Json → String
  | .null => "null"
  | .bool b => if b then "true" else "false"
  | .number n => n.text
  | .string s => quoted s
  | .array items => "[" ++ compactItems items ++ "]"
  | .object members => "\x7b" ++ compactMembers members ++ "\x7d"

/-- The items of an array, with commas between them. -/
def compactItems : List Json → String
  | [] => ""
  | [item] => compact item
  | item :: rest => compact item ++ "," ++ compactItems rest

/-- The members of an object, with commas between them. -/
def compactMembers : List (String × Json) → String
  | [] => ""
  | [(name, value)] => quoted name ++ ":" ++ compact value
  | (name, value) :: rest => quoted name ++ ":" ++ compact value ++ "," ++ compactMembers rest

end

/-- The start of a line at a depth of nesting. -/
def newLine (depth : Nat) : String :=
  "\n".pushn ' ' (2 * depth)

mutual

/-- A value at a depth of nesting, one member or item a line. -/
def layout (depth : Nat) : Json → String
  | .null => "null"
  | .bool b => if b then "true" else "false"
  | .number n => n.text
  | .string s => quoted s
  | .array [] => "[]"
  | .array items => "[" ++ layoutItems (depth + 1) items ++ newLine depth ++ "]"
  | .object [] => "\x7b\x7d"
  | .object members => "\x7b" ++ layoutMembers (depth + 1) members ++ newLine depth ++ "\x7d"

/-- The items of an array, each on lines of its own. -/
def layoutItems (depth : Nat) : List Json → String
  | [] => ""
  | [item] => newLine depth ++ layout depth item
  | item :: rest => newLine depth ++ layout depth item ++ "," ++ layoutItems depth rest

/-- The members of an object, each on lines of its own. -/
def layoutMembers (depth : Nat) : List (String × Json) → String
  | [] => ""
  | [(name, value)] => newLine depth ++ quoted name ++ ": " ++ layout depth value
  | (name, value) :: rest =>
    newLine depth ++ quoted name ++ ": " ++ layout depth value ++ "," ++ layoutMembers depth rest

end

/-- A value on as many lines as it has parts. -/
def pretty (json : Json) : String :=
  layout 0 json

end Json

end PlanarArm
