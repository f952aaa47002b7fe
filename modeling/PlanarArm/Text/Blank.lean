/-!
# White space

The characters with the Unicode property White_Space, and what is built on it: trimming, splitting
into words. `isBlank_of_isWhitespace` says that the set contains the white space of ASCII.
-/

namespace PlanarArm.Text

/-- Whether a character is white space in the sense of Unicode. -/
def isBlank (c : Char) : Bool :=
  let n := c.toNat
  (0x9 ≤ n && n ≤ 0xD) || n == 0x20 || n == 0x85 || n == 0xA0 || n == 0x1680 ||
    (0x2000 ≤ n && n ≤ 0x200A) || n == 0x2028 || n == 0x2029 || n == 0x202F || n == 0x205F ||
    n == 0x3000

theorem isBlank_of_isWhitespace {c : Char} (h : c.isWhitespace = true) : isBlank c = true := by
  simp only [Char.isWhitespace, Bool.or_eq_true, decide_eq_true_eq] at h
  rcases h with ((rfl | rfl) | rfl) | rfl <;> rfl

/-- Without the white space at the head. -/
def trimHead (cs : List Char) : List Char :=
  cs.dropWhile isBlank

/-- Without the white space at both ends. -/
def trim (cs : List Char) : List Char :=
  (trimHead (trimHead cs).reverse).reverse

/-- The words of a text, in order: the longest pieces without white space. `word` holds the
characters of a word that has begun, last first. -/
def splitWords (word : List Char) : List Char → List (List Char)
  | [] => if word.isEmpty then [] else [word.reverse]
  | c :: cs =>
    if isBlank c then
      if word.isEmpty then splitWords [] cs else word.reverse :: splitWords [] cs
    else splitWords (c :: word) cs

/-- The words of a text. -/
def words (cs : List Char) : List (List Char) :=
  splitWords [] cs

/-- The text in lower case as far as it is ASCII. -/
def lower (cs : List Char) : List Char :=
  cs.map Char.toLower

end PlanarArm.Text
