import PlanarArm.Decimal.Reader
import PlanarArm.Text.Calendar
import PlanarArm.Toml.Basic

/-!
# The words of a TOML text

Readers for what stands in a line: blanks and comments, strings, numbers, dates. A reader takes the
head of a text and gives what it read and the rest.
-/

namespace PlanarArm.Toml

/-! ## Blanks and comments -/

/-- Whether a character is a blank within a line. -/
def isGap (c : Char) : Bool :=
  c = ' ' || c = '\t'

/-- Without the blanks at the head. -/
def skipGap (cs : List Char) : List Char :=
  cs.dropWhile isGap

/-- Whether a character may stand in a comment or a string: a tab, or no control character of
ASCII. -/
def isPrintable (c : Char) : Bool :=
  c = '\t' || (0x20 ≤ c.toNat && c.toNat ≠ 0x7F)

/-- Without the comment at the head. -/
def skipComment : List Char → List Char
  | '#' :: cs => cs.dropWhile isPrintable
  | cs => cs

/-- Behind the end of the line that has to be at the head. -/
def lineEnd? : List Char → Option (List Char)
  | [] => some []
  | '\n' :: cs => some cs
  | '\r' :: '\n' :: cs => some cs
  | _ => none

/-- Behind the end of the line, before which only blanks and a comment may stand. -/
def restOfLine? (cs : List Char) : Option (List Char) :=
  lineEnd? (skipComment (skipGap cs))

/-- Without blanks, comments and ends of lines at the head; `fuel` bounds the number of lines. -/
def skipLines : Nat → List Char → List Char
  | 0, cs => cs
  | fuel + 1, cs =>
    match skipComment (skipGap cs) with
    | '\n' :: rest => skipLines fuel rest
    | '\r' :: '\n' :: rest => skipLines fuel rest
    | _ => skipGap cs

/-! ## Strings -/

/-- The value of hexadecimal digits. -/
def hexValue? (digits : List Char) : Option Nat :=
  digits.foldlM (fun n c =>
    if c.isDigit then some (16 * n + (c.toNat - '0'.toNat))
    else if 'a' ≤ c ∧ c ≤ 'f' then some (16 * n + (c.toNat - 'a'.toNat + 10))
    else if 'A' ≤ c ∧ c ≤ 'F' then some (16 * n + (c.toNat - 'A'.toNat + 10))
    else none) 0

/-- The character with a number that is given by so many hexadecimal digits at the head. -/
def numbered? (count : Nat) (cs : List Char) : Option (Char × List Char) :=
  if cs.length < count then none
  else do
    let n ← hexValue? (cs.take count)
    if n.isValidChar then some (Char.ofNat n, cs.drop count) else none

/-- The character that an escape behind its backslash stands for. -/
def escape? : List Char → Option (Char × List Char)
  | 'b' :: cs => some ('\x08', cs)
  | 't' :: cs => some ('\t', cs)
  | 'n' :: cs => some ('\n', cs)
  | 'f' :: cs => some ('\x0c', cs)
  | 'r' :: cs => some ('\r', cs)
  | '"' :: cs => some ('"', cs)
  | '\\' :: cs => some ('\\', cs)
  | 'u' :: cs => numbered? 4 cs
  | 'U' :: cs => numbered? 8 cs
  | _ => none

/-- The rest of a string on one line; `done` holds its characters so far, last first. -/
def basicString? (fuel : Nat) (done : List Char) (cs : List Char) :
    Option (String × List Char) :=
  match fuel, cs with
  | 0, _ => none
  | _, [] => none
  | _, '"' :: cs => some (String.ofList done.reverse, cs)
  | fuel + 1, '\\' :: cs =>
    match escape? cs with
    | some (c, cs) => basicString? fuel (c :: done) cs
    | none => none
  | fuel + 1, c :: cs => if isPrintable c then basicString? fuel (c :: done) cs else none

/-- The rest of a string on one line without escapes. -/
def literalString? (done : List Char) : List Char → Option (String × List Char)
  | [] => none
  | '\'' :: cs => some (String.ofList done.reverse, cs)
  | c :: cs => if isPrintable c then literalString? (c :: done) cs else none

/-- Behind the quotes at the head, which end a string of several lines if they are three to five;
the quotes beyond three belong to the string. -/
def closing? (quote : Char) (cs : List Char) : Option (Nat × List Char) :=
  let count := min 5 (cs.takeWhile (· = quote)).length
  if 3 ≤ count then some (count - 3, cs.drop count) else none

/-- A backslash at the end of a line in a string: behind it and all white space that follows. -/
def continuation? (cs : List Char) : Option (List Char) :=
  match skipGap cs with
  | '\n' :: rest => some (rest.dropWhile fun c => isGap c || c = '\n' || c = '\r')
  | '\r' :: '\n' :: rest => some (rest.dropWhile fun c => isGap c || c = '\n' || c = '\r')
  | _ => none

/-- The rest of a string of several lines, with escapes if `escapes`. -/
def longString? (fuel : Nat) (quote : Char) (escapes : Bool) (done : List Char)
    (cs : List Char) : Option (String × List Char) :=
  match fuel, cs with
  | 0, _ => none
  | _, [] => none
  | fuel + 1, c :: rest =>
    match closing? quote (c :: rest) with
    | some (extra, rest) =>
      some (String.ofList (done.reverse ++ List.replicate extra quote), rest)
    | none =>
      if escapes && c = '\\' then
        match continuation? rest with
        | some rest => longString? fuel quote escapes done rest
        | none =>
          match escape? rest with
          | some (c, rest) => longString? fuel quote escapes (c :: done) rest
          | none => none
      else if c = '\r' then
        match rest with
        | '\n' :: rest => longString? fuel quote escapes ('\n' :: done) rest
        | _ => none
      else if c = '\n' || isPrintable c then longString? fuel quote escapes (c :: done) rest
      else none

/-- Without the end of a line at the head. -/
def dropLineEnd : List Char → List Char
  | '\n' :: cs => cs
  | '\r' :: '\n' :: cs => cs
  | cs => cs

/-- A string of any form. -/
def string? (fuel : Nat) : List Char → Option (String × List Char)
  | '"' :: '"' :: '"' :: cs => longString? fuel '"' true [] (dropLineEnd cs)
  | '\'' :: '\'' :: '\'' :: cs => longString? fuel '\'' false [] (dropLineEnd cs)
  | '"' :: cs => basicString? fuel [] cs
  | '\'' :: cs => literalString? [] cs
  | _ => none

/-! ## Numbers -/

/-- A run of digits between which single underscores may stand, without the underscores. -/
def digitRun? (isDigit : Char → Bool) : List Char → Option (List Char × List Char)
  | c :: cs =>
    if isDigit c then
      match cs with
      | '_' :: rest => (digitRun? isDigit rest).map fun (ds, rest) => (c :: ds, rest)
      | d :: rest =>
        if isDigit d then (digitRun? isDigit (d :: rest)).map fun (ds, rest) => (c :: ds, rest)
        else some ([c], d :: rest)
      | [] => some ([c], [])
    else none
  | [] => none

/-- The sign at the head, `true` for a minus. -/
def sign : List Char → Bool × List Char :=
  Decimal.readSign

/-- The digits of a whole number: zero alone, or a run that starts otherwise. -/
def wholeDigits? : List Char → Option (List Char × List Char)
  | '0' :: cs => some (['0'], cs)
  | cs => digitRun? Char.isDigit cs

/-- The value of digits to a base. -/
def valueIn (base : Nat) (digits : List Char) : Nat :=
  digits.foldl (fun n c => base * n + ((hexValue? [c]).getD 0)) 0

/-- A whole number, if it fits 64 bits with a sign. -/
def bounded? (n : Int) : Option Item :=
  if -(Nat.pow 2 63) ≤ n ∧ n < Nat.pow 2 63 then some (.integer n) else none

/-- A number to a base that is named at the head. -/
def based? : List Char → Option (Option (Item × List Char))
  | '0' :: 'x' :: cs => some (digits 16 (fun c => (hexValue? [c]).isSome) cs)
  | '0' :: 'o' :: cs => some (digits 8 (fun c => '0' ≤ c && c ≤ '7') cs)
  | '0' :: 'b' :: cs => some (digits 2 (fun c => c = '0' || c = '1') cs)
  | _ => none
where
  /-- The digits behind the name of the base. -/
  digits (base : Nat) (isDigit : Char → Bool) (cs : List Char) : Option (Item × List Char) := do
    let (ds, rest) ← digitRun? isDigit cs
    let item ← bounded? (valueIn base ds)
    return (item, rest)

/-- A fraction behind its point, which has to have digits if there is a point. -/
def fraction? : List Char → Option (Option (List Char) × List Char)
  | '.' :: cs => (digitRun? Char.isDigit cs).map fun (ds, rest) => (some ds, rest)
  | cs => some (none, cs)

/-- An exponent behind its letter, which has to have digits if there is a letter. -/
def exponent? : List Char → Option (Option Int × List Char)
  | c :: cs =>
    if c = 'e' ∨ c = 'E' then
      let (negative, cs) := sign cs
      (digitRun? Char.isDigit cs).map fun (ds, rest) =>
        let size : Int := Decimal.digitsValue ds
        (some (if negative then -size else size), rest)
    else some (none, c :: cs)
  | [] => some (none, [])

/-- The names of values without digits. -/
def named? : List Char → Option (Float × List Char)
  | 'i' :: 'n' :: 'f' :: cs => some (1.0 / 0.0, cs)
  | 'n' :: 'a' :: 'n' :: cs => some (0.0 / 0.0, cs)
  | _ => none

/-- A decimal number. One that is too large for a double is refused. -/
def decimal? (cs : List Char) : Option (Item × List Char) :=
  let (negative, cs) := sign cs
  match named? cs with
  | some (x, rest) => some (.float (if negative then -x else x), rest)
  | none => do
    let (whole, rest) ← wholeDigits? cs
    let (fraction, rest) ← fraction? rest
    let (exponent, rest) ← exponent? rest
    if fraction.isNone && exponent.isNone then
      let size : Int := Decimal.digitsValue whole
      let item ← bounded? (if negative then -size else size)
      return (item, rest)
    else
      let x := Decimal.Numeral.toFloat ⟨whole, fraction.getD [], exponent.getD 0⟩
      if x.isInf && !negative then none
      else return (.float (if negative then -x else x), rest)

/-! ## Dates and times -/

/-- A number of exactly so many digits. -/
def exactly? (count : Nat) (cs : List Char) : Option (Nat × List Char) :=
  let digits := cs.take count
  if digits.length = count && digits.all Char.isDigit then
    some (Decimal.digitsValue digits, cs.drop count)
  else none

/-- Behind a character that has to be at the head. -/
def expect? (c : Char) : List Char → Option (List Char)
  | d :: cs => if d = c then some cs else none
  | [] => none

/-- Behind a date; `none` inside if the text does not begin like one. -/
def date? (cs : List Char) : Option (Option (List Char)) :=
  match exactly? 4 cs with
  | some (year, '-' :: cs) => some do
    let (month, cs) ← exactly? 2 cs
    let cs ← expect? '-' cs
    let (day, cs) ← exactly? 2 cs
    if 1 ≤ month ∧ month ≤ 12 ∧ 1 ≤ day ∧ day ≤ Text.daysIn year month then some cs else none
  | _ => none

/-- Behind a time of day; `none` if the text does not begin like one. -/
def time? (cs : List Char) : Option (Option (List Char)) :=
  match exactly? 2 cs with
  | some (hour, ':' :: cs) => some do
    let (minute, cs) ← exactly? 2 cs
    let cs ← expect? ':' cs
    let (second, cs) ← exactly? 2 cs
    let rest := match cs with
      | '.' :: d :: rest => if d.isDigit then rest.dropWhile Char.isDigit else cs
      | _ => cs
    if hour ≤ 23 ∧ minute ≤ 59 ∧ second ≤ 60 then some rest else none
  | _ => none

/-- Behind an offset from universal time, if there is one. -/
def zone? (cs : List Char) : Option (List Char) :=
  match cs with
  | c :: rest =>
    if c = 'Z' ∨ c = 'z' then some rest
    else if c = '+' ∨ c = '-' then
      match exactly? 2 rest with
      | some (hour, ':' :: rest) => do
        let (minute, rest) ← exactly? 2 rest
        if hour ≤ 23 ∧ minute ≤ 59 then some rest else none
      | _ => none
    else some cs
  | [] => some []

/-- Behind a date with or without a time of day, or a time of day alone; `none` if the text does not
begin like one. -/
def datetime? (cs : List Char) : Option (Option (List Char)) :=
  match date? cs with
  | some none => some none
  | some (some rest) =>
    match rest with
    | c :: later =>
      if c = 'T' ∨ c = 't' ∨ c = ' ' then
        match time? later with
        | none => some (some rest)
        | some none => some none
        | some (some rest) => some (zone? rest)
      else some (some rest)
    | [] => some (some [])
  | none => time? cs

end PlanarArm.Toml
