/-!
# Lines

A text is cut behind each line feed. A carriage return before a line feed belongs to the end of the
line, too. A text that ends in a line feed has no further line behind it.
-/

namespace PlanarArm.Text

/-- The line before a line feed. `line` holds its characters, last first. -/
def closeLine (line : List Char) : List Char :=
  match line with
  | '\r' :: line => line.reverse
  | line => line.reverse

/-- The lines of a text, without their ends. `line` holds the characters of a line that has begun,
last first. -/
def splitLines (line : List Char) : List Char → List (List Char)
  | [] => if line.isEmpty then [] else [line.reverse]
  | c :: cs =>
    if c = '\n' then closeLine line :: splitLines [] cs else splitLines (c :: line) cs

/-- The lines of a text. -/
def lines (text : String) : List String :=
  (splitLines [] text.toList).map String.ofList

end PlanarArm.Text
