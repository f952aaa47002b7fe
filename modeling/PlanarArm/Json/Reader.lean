import PlanarArm.Json.Token
import PlanarArm.Json.Wanted

/-!
# Reading a JSON text

A text is read token by token. What has been read is a stack of arrays and objects that are still
open, the innermost first, and what may come next; `Reading.step` takes one token, and `Json.read?`
succeeds if all tokens together leave one finished value.

Parts that are not wanted (`Wanted`) have to be well formed, but they are not evaluated: numbers out
of range, halves of surrogate pairs and any depth of nesting pass there. In the parts that are
wanted, nesting is bounded (`maxDepth`). `Json.parse?` wants everything.
-/

namespace PlanarArm.Json

/-- An array or an object whose end has not been read, with what is wanted of it. -/
inductive Open where
  /-- An array with the items so far. -/
  | array (wanted : Wanted) (items : Array Json)
  /-- An object with the members so far. -/
  | object (wanted : Wanted) (members : Array (String × Json))
  /-- An object with the members so far and the name of the next one. -/
  | member (wanted : Wanted) (members : Array (String × Json)) (name : String)

/-- What the next token has to begin or to be. -/
inductive Expected where
  /-- A value. -/
  | value
  /-- A value or the end of the array. -/
  | firstItem
  /-- The name of a member. -/
  | name
  /-- The name of a member or the end of the object. -/
  | firstName
  /-- The colon behind a name. -/
  | colon
  /-- A comma or the end of what is open. -/
  | separator
  /-- Nothing: the value is finished. -/
  | nothing (result : Json)

/-- What has been read of a text. -/
structure Reading where
  /-- What is still open, the innermost first. -/
  stack : List Open
  /-- What may come next. -/
  expected : Expected

/-- The greatest number of arrays and objects that may be open at once where they are wanted. -/
def maxDepth : Nat :=
  127

namespace Reading

/-- Nothing has been read. -/
def start : Reading :=
  ⟨[], .value⟩

/-- What is wanted of the next value, if `all` is wanted of the text. -/
def wantedNext (all : Wanted) : List Open → Wanted
  | [] => all
  | .array wanted items :: _ => wanted.item items.size
  | .member wanted _ name :: _ => wanted.member name
  | .object wanted _ :: _ => wanted

/-- A finished value takes its place in what is open around it. -/
def finish (value : Json) : List Open → Option Reading
  | [] => some ⟨[], .nothing value⟩
  | .array wanted items :: outer => some ⟨.array wanted (items.push value) :: outer, .separator⟩
  | .member wanted members name :: outer =>
    some ⟨.object wanted (members.push (name, value)) :: outer, .separator⟩
  | .object _ _ :: _ => none

/-- Opens an array or an object. -/
def enter (wanted : Wanted) (inner : Open) (expected : Expected) (stack : List Open) :
    Option Reading :=
  if wanted.admits stack.length maxDepth then some ⟨inner :: stack, expected⟩ else none

/-- Reads a token where a value has to begin. -/
def beginValue (wanted : Wanted) (stack : List Open) : Token → Option Reading
  | .beginArray => enter wanted (.array wanted #[]) .firstItem stack
  | .beginObject => enter wanted (.object wanted #[]) .firstName stack
  | .null => finish .null stack
  | .bool b => finish (wanted.keep (.bool b)) stack
  | .number n => do finish (← wanted.keep? .null (n.map .number)) stack
  | .string s => do finish (← wanted.keep? .null (s.map .string)) stack
  | _ => none

/-- Reads one token of a text of which `all` is wanted. -/
def step (all : Wanted) (reading : Reading) (token : Token) : Option Reading :=
  match reading.expected, reading.stack, token with
  | .value, stack, token => beginValue (wantedNext all stack) stack token
  | .firstItem, .array wanted _ :: outer, .endArray => finish (wanted.keep (.array [])) outer
  | .firstItem, stack, token => beginValue (wantedNext all stack) stack token
  | .firstName, .object wanted _ :: outer, .endObject => finish (wanted.keep (.object [])) outer
  | .firstName, .object wanted members :: outer, .string name =>
    (wanted.keep? "" name).map fun name => ⟨.member wanted members name :: outer, .colon⟩
  | .name, .object wanted members :: outer, .string name =>
    (wanted.keep? "" name).map fun name => ⟨.member wanted members name :: outer, .colon⟩
  | .colon, stack, .colon => some ⟨stack, .value⟩
  | .separator, .array wanted items :: outer, .endArray =>
    finish (wanted.keep (.array items.toList)) outer
  | .separator, .object wanted members :: outer, .endObject =>
    finish (wanted.keep (.object members.toList)) outer
  | .separator, .array wanted items :: outer, .comma => some ⟨.array wanted items :: outer, .value⟩
  | .separator, .object wanted members :: outer, .comma =>
    some ⟨.object wanted members :: outer, .name⟩
  | _, _, _ => none

/-- The value, if it is finished. -/
def result? (reading : Reading) : Option Json :=
  match reading.expected with
  | .nothing value => some value
  | _ => none

end Reading

/-- The value that a text denotes, if it is a JSON text, in the parts that are wanted. -/
def read? (wanted : Wanted) (text : String) : Option Json := do
  let tokens ← Token.ofText? text
  let reading ← tokens.foldlM (Reading.step wanted) Reading.start
  reading.result?

/-- The value that a text denotes, if it is a JSON text. -/
def parse? (text : String) : Option Json :=
  read? .whole text

end PlanarArm.Json
