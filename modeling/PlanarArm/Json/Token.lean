import PlanarArm.Decimal.Reader
import PlanarArm.Json.Basic

/-!
# The tokens of a JSON text

`Token.scan` cuts a text into tokens. The form of a token and its value are told apart: a number too
large for a double and a string with half a surrogate pair are tokens that have no value.

The value of a number is found in two roundings (`scaled`): its digits are gathered into one machine
word (`gather`), and the word, as a double, is multiplied or divided by a power of ten.
-/

namespace PlanarArm.Json

/-- A lexical unit of a JSON text. -/
inductive Token where
  | beginArray
  | endArray
  | beginObject
  | endObject
  | colon
  | comma
  | null
  | bool (b : Bool)
  | number (value : Option JsonNumber)
  | string (value : Option String)

namespace Token

/-! ## Numbers -/

/-- One more than the largest number that a machine word holds. -/
def wordSize : Nat :=
  Nat.pow 2 64

/-- Appends digits to a word as long as they fit: the word, and the digits left over. -/
def gather (word : Nat) : List Char → Nat × List Char
  | [] => (word, [])
  | c :: cs =>
    let next := 10 * word + (c.toNat - '0'.toNat)
    if next < wordSize then gather next cs else (word, c :: cs)

/-- The double `word * 10 ^ exponent`, the word and the power rounded on their own. Below the
smallest power of ten that is a normal double the division is done in several steps. -/
def scaled (word : Nat) (exponent : Int) : Option Float :=
  let whole := Float.ofNat word
  if word = 0 then some whole
  else if 308 < exponent then none
  else if 0 ≤ exponent then
    let x := whole * Float.ofScientific 1 false exponent.toNat
    if x.isInf then none else some x
  else
    some (shrink (exponent.natAbs / 308) exponent.natAbs whole)
where
  /-- Divides by `10 ^ places`, by at most `10 ^ 308` at a time, until nothing is left. -/
  shrink (steps places : Nat) (x : Float) : Float :=
    if places ≤ 308 then x / Float.ofScientific 1 false places
    else if x == 0.0 then x
    else match steps with
      | 0 => 0.0
      | steps + 1 => shrink steps (places - 308) (x / 1e308)

/-- The largest exponent that is read; a larger one counts as a number out of range. -/
def maxExponent : Nat :=
  Nat.pow 2 31 - 1

/-- The value of a numeral with a fraction or an exponent. Whole digits beyond the word count as
powers of ten, further fractional digits are dropped. -/
def fractional (whole fraction : List Char) (exponent : Int) : Option Float :=
  let (word, beyond) := gather 0 whole
  let (word, dropped) := gather word fraction
  let places : Int := (beyond.length : Int) - ((fraction.length - dropped.length : Nat) : Int)
  if maxExponent < exponent.natAbs then
    if word = 0 ∨ exponent < 0 then some 0.0 else none
  else scaled word (places + exponent)

/-- The value of a numeral without fraction and exponent. -/
def whole (negative : Bool) (digits : List Char) : Option JsonNumber :=
  let value := Decimal.digitsValue digits
  if !negative && value < wordSize then some (.whole value)
  else if negative && 0 < value && value ≤ wordSize / 2 then some (.whole (-(value : Int)))
  else (fractional digits [] 0).map fun x => .double (if negative then -x else x)

/-- Whether digits stand for a whole part: there is one, and only zero itself starts with zero. -/
def isWholePart : List Char → Bool
  | [] => false
  | ['0'] => true
  | c :: _ => c != '0'

/-- An exponent at the head of a text, and what follows it; none is exponent zero. -/
def readExponent? (cs : List Char) : Option (Bool × Int × List Char) :=
  match cs with
  | [] => some (false, 0, cs)
  | c :: rest =>
    if c = 'e' ∨ c = 'E' then
      let (negative, rest) := Decimal.readSign rest
      let (digits, rest) := Decimal.spanDigits rest
      if digits.isEmpty then none
      else
        let size : Int := Decimal.digitsValue digits
        some (true, if negative then -size else size, rest)
    else some (false, 0, cs)

/-- A number at the head of a text, with its value if a double can hold it, and what follows it. -/
def readNumber? (cs : List Char) : Option (Option JsonNumber × List Char) :=
  let (negative, cs) := match cs with
    | '-' :: rest => (true, rest)
    | _ => (false, cs)
  let (digits, cs) := Decimal.spanDigits cs
  if !isWholePart digits then none
  else
    let (fraction, cs) : Option (List Char) × List Char := match cs with
      | '.' :: rest =>
        let (fraction, rest) := Decimal.spanDigits rest
        (some fraction, rest)
      | _ => (none, cs)
    if fraction = some [] then none
    else
      match readExponent? cs with
      | none => none
      | some (written, exponent, cs) =>
        if fraction.isNone && !written then some (whole negative digits, cs)
        else
          let value := (fractional digits (fraction.getD []) exponent).map fun x =>
            JsonNumber.double (if negative then -x else x)
          some (value, cs)

/-! ## Strings -/

/-- The value of a hexadecimal digit. -/
def hexDigit? (c : Char) : Option Nat :=
  if c.isDigit then some (c.toNat - '0'.toNat)
  else if 'a' ≤ c ∧ c ≤ 'f' then some (c.toNat - 'a'.toNat + 10)
  else if 'A' ≤ c ∧ c ≤ 'F' then some (c.toNat - 'A'.toNat + 10)
  else none

/-- The value of four hexadecimal digits. -/
def hexUnit? (a b c d : Char) : Option Nat := do
  return ((← hexDigit? a) * 16 + (← hexDigit? b)) * 256 + (← hexDigit? c) * 16 + (← hexDigit? d)

/-- The character that a letter stands for behind a backslash. -/
def escaped? : Char → Option Char
  | '"' => some '"'
  | '\\' => some '\\'
  | '/' => some '/'
  | 'b' => some '\x08'
  | 'f' => some '\x0c'
  | 'n' => some '\n'
  | 'r' => some '\r'
  | 't' => some '\t'
  | _ => none

/-- Whether a unit is the first half of a surrogate pair. -/
def isHighSurrogate (u : Nat) : Bool :=
  0xD800 ≤ u && u < 0xDC00

/-- Whether a unit is the second half of a surrogate pair. -/
def isLowSurrogate (u : Nat) : Bool :=
  0xDC00 ≤ u && u < 0xE000

/-- A part of the body of a string. -/
inductive StringPart where
  /-- A character, written as itself or behind a backslash. -/
  | char (c : Char)
  /-- A unit that is written with four hexadecimal digits. -/
  | unit (u : Nat)

/-- The parts of the body of a string up to its closing quote, behind those of `done`, last first;
and what follows the quote. A character below the blank has to be written as an escape. -/
def readParts? (done : List StringPart) : List Char → Option (List StringPart × List Char)
  | [] => none
  | '"' :: rest => some (done.reverse, rest)
  | '\\' :: 'u' :: a :: b :: c :: d :: rest =>
    match hexUnit? a b c d with
    | none => none
    | some u => readParts? (.unit u :: done) rest
  | '\\' :: c :: rest =>
    match escaped? c with
    | none => none
    | some c => readParts? (.char c :: done) rest
  | c :: rest => if c.toNat < 0x20 then none else readParts? (.char c :: done) rest

/-- The characters that parts stand for, behind those of `done`, last first: a surrogate has to be
one of a pair. -/
def characters? (done : List Char) : List StringPart → Option (List Char)
  | [] => some done.reverse
  | .char c :: rest => characters? (c :: done) rest
  | .unit u :: .unit v :: rest =>
    if isHighSurrogate u && isLowSurrogate v then
      characters? (Char.ofNat (0x10000 + (u - 0xD800) * 0x400 + (v - 0xDC00)) :: done) rest
    else if isHighSurrogate u || isLowSurrogate u then none
    else characters? (Char.ofNat u :: done) (.unit v :: rest)
  | .unit u :: rest =>
    if isHighSurrogate u || isLowSurrogate u then none
    else characters? (Char.ofNat u :: done) rest

/-- A string behind its opening quote, with its value if its surrogates are paired, and what follows
it. -/
def readString? (cs : List Char) : Option (Option String × List Char) :=
  (readParts? [] cs).map fun (parts, rest) => ((characters? [] parts).map String.ofList, rest)

/-! ## All tokens -/

/-- Whether a character only separates tokens. -/
def isBlank (c : Char) : Bool :=
  c = ' ' || c = '\n' || c = '\t' || c = '\r'

/-- The token that starts with the character `c`, and what follows it. -/
def read? (c : Char) (cs : List Char) : Option (Token × List Char) :=
  match c, cs with
  | '[', cs => some (.beginArray, cs)
  | ']', cs => some (.endArray, cs)
  | '\x7b', cs => some (.beginObject, cs)
  | '\x7d', cs => some (.endObject, cs)
  | ':', cs => some (.colon, cs)
  | ',', cs => some (.comma, cs)
  | 'n', 'u' :: 'l' :: 'l' :: cs => some (.null, cs)
  | 't', 'r' :: 'u' :: 'e' :: cs => some (.bool true, cs)
  | 'f', 'a' :: 'l' :: 's' :: 'e' :: cs => some (.bool false, cs)
  | '"', cs => (readString? cs).map fun (s, cs) => (.string s, cs)
  | c, cs => (readNumber? (c :: cs)).map fun (n, cs) => (.number n, cs)

/-- The tokens of a text, behind those of `done`; each takes one of the `fuel` characters at
least. -/
def scan (fuel : Nat) (done : Array Token) (cs : List Char) : Option (Array Token) :=
  match fuel, cs with
  | _, [] => some done
  | 0, _ :: _ => none
  | fuel + 1, c :: cs =>
    if isBlank c then scan fuel done cs
    else match read? c cs with
      | none => none
      | some (token, cs) => scan fuel (done.push token) cs

/-- The tokens of a text, if it consists of tokens and blanks. -/
def ofText? (text : String) : Option (Array Token) :=
  scan text.length #[] text.toList

end Token

end PlanarArm.Json
