import PlanarArm.Decimal.Reader
import PlanarArm.Text.Blank
import PlanarArm.Text.Calendar

/-!
# The form of a point in time

A stored report carries the time at which it was made. Nothing is computed with it here, but a
report is refused if its time is none: `Timestamp.isValid` checks a date of the Gregorian calendar, a
time of day and an offset from universal time, with blanks allowed between their parts. The date has
to lie in the span from `firstDay` to `lastDay`, as written and in universal time.
-/

namespace PlanarArm.Timestamp

/-- A day: its year, its month and its day of the month. -/
structure Day where
  /-- The year. -/
  year : Int
  /-- The month, from 1. -/
  month : Nat
  /-- The day of the month, from 1. -/
  day : Nat
deriving DecidableEq

/-- The first day that there is. -/
def firstDay : Day :=
  ⟨-262143, 1, 1⟩

/-- The last day that there is. -/
def lastDay : Day :=
  ⟨262142, 12, 31⟩

/-- A number of at most `width` digits behind blanks. -/
def number? (width : Nat) (cs : List Char) : Option (Nat × List Char) :=
  let cs := Text.trimHead cs
  let digits := (cs.take width).takeWhile Char.isDigit
  if digits.isEmpty then none else some (Decimal.digitsValue digits, cs.drop digits.length)

/-- A year: four digits at most, or any number of them behind a sign. -/
def year? (cs : List Char) : Option (Int × List Char) :=
  let signed (rest : List Char) : Option (Nat × List Char) :=
    let (digits, rest) := Decimal.spanDigits rest
    if digits.isEmpty then none else some (Decimal.digitsValue digits, rest)
  match Text.trimHead cs with
  | '-' :: rest => (signed rest).map fun (n, rest) => (-(n : Int), rest)
  | '+' :: rest => (signed rest).map fun (n, rest) => ((n : Int), rest)
  | cs => (number? 4 cs).map fun (n, rest) => ((n : Int), rest)

/-- The separator `sep`, behind blanks. -/
def separator? (sep : Char) (cs : List Char) : Option (List Char) :=
  match Text.trimHead cs with
  | c :: rest => if c = sep then some rest else none
  | [] => none

/-- A date. -/
def date? (cs : List Char) : Option (Day × List Char) := do
  let (year, cs) ← year? cs
  let cs ← separator? '-' cs
  let (month, cs) ← number? 2 cs
  let cs ← separator? '-' cs
  let (day, cs) ← number? 2 cs
  if firstDay.year ≤ year ∧ year ≤ lastDay.year ∧ 1 ≤ month ∧ month ≤ 12 ∧
      1 ≤ day ∧ day ≤ Text.daysIn year month
  then some (⟨year, month, day⟩, cs) else none

/-- A fraction of a second, if there is a point. -/
def fraction? : List Char → Option (List Char)
  | '.' :: cs =>
    let (digits, rest) := Decimal.spanDigits cs
    if digits.isEmpty then none else some rest
  | cs => some cs

/-- A time of day, in whole seconds since midnight. A leap second counts as the one before it. -/
def time? (cs : List Char) : Option (Nat × List Char) := do
  let (hour, cs) ← number? 2 cs
  let cs ← separator? ':' cs
  let (minute, cs) ← number? 2 cs
  let cs ← separator? ':' cs
  let (second, cs) ← number? 2 cs
  let cs ← fraction? cs
  if hour ≤ 23 ∧ minute ≤ 59 ∧ second ≤ 60 then
    some (3600 * hour + 60 * minute + min second 59, Text.trimHead cs)
  else none

/-- Two digits, read as one number. -/
def twoDigits? : List Char → Option (Nat × List Char)
  | a :: b :: cs =>
    if a.isDigit && b.isDigit then some (Decimal.digitsValue [a, b], cs) else none
  | _ => none

/-- Hours and minutes of an offset, less than a day, with colons and blanks allowed between them; in
seconds. -/
def offset? (cs : List Char) : Option (Nat × List Char) := do
  let (hours, cs) ← twoDigits? cs
  let (minutes, cs) ← twoDigits? (cs.dropWhile fun c => c == ':' || Text.isBlank c)
  if hours ≤ 23 ∧ minutes ≤ 59 then some (3600 * hours + 60 * minutes, cs) else none

/-- The offset from universal time in seconds, or a name of universal time. -/
def zone? (cs : List Char) : Option (Int × List Char) :=
  if Text.lower (cs.take 3) = ['u', 't', 'c'] then some (0, cs.drop 3)
  else match cs with
    | c :: rest =>
      if c = 'Z' ∨ c = 'z' then some (0, rest)
      else if c = '+' then (offset? rest).map fun (seconds, rest) => ((seconds : Int), rest)
      else if c = '-' ∨ c = '\u2212' then
        (offset? rest).map fun (seconds, rest) => (-(seconds : Int), rest)
      else none
    | [] => none

/-- The number of seconds of a day. -/
def secondsOfDay : Int :=
  86400

/-- Whether a time of a day, at an offset from universal time, is on a day that there is. -/
def isInSpan (day : Day) (seconds : Nat) (offset : Int) : Bool :=
  let universal := (seconds : Int) - offset
  !(day = firstDay && universal < 0) && !(day = lastDay && secondsOfDay ≤ universal)

/-- Whether a text is a date, a time of day and a zone. -/
def isValid (text : String) : Bool :=
  match date? text.toList with
  | some (day, c :: cs) =>
    if c = 'T' ∨ c = 't' ∨ c = ' ' then
      match time? cs with
      | some (seconds, cs) =>
        match zone? cs with
        | some (offset, cs) => (Text.trimHead cs).isEmpty && isInSpan day seconds offset
        | none => false
      | none => false
    else false
  | _ => false

end PlanarArm.Timestamp
