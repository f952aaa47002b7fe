import PlanarArm.Decimal.Binary64

/-!
# The fewest decimal digits that identify a double

`Decimal.shortest` selects, among the decimals that read back to a given double, one with the
fewest digits, and of those the nearest to it (of two equally near, the one that a `Tie` says). The
search is the definition: for one digit, two digits and so on, the two neighbours of the double on
that decimal grid are tested against the interval of numbers that round to it
(`Magnitude.readsBack`).

`Decimal.plainText` lays the digits out without an exponent, as numbers stand in messages;
`Decimal.numberText` writes an exponent for very small and very large ones, as numbers stand in
JSON text.
-/

namespace PlanarArm

/-- A decimal number, `digits * 10 ^ exponent`. -/
structure Decimal where
  /-- The digits, read as one whole number. -/
  digits : Nat
  /-- The power of ten they are scaled by. -/
  exponent : Int
deriving DecidableEq, Repr

/-- Which of two equally near decimals, neighbours on their grid, is taken. -/
inductive Tie where
  /-- The greater one. -/
  | up
  /-- The one with an even last digit. -/
  | toEven
deriving DecidableEq, Repr

/-- Whether the lower of two neighbours is taken, given its digits. -/
def Tie.takesLower (tie : Tie) (digits : Nat) : Bool :=
  match tie with
  | .up => false
  | .toEven => digits % 2 == 0

namespace Magnitude

/-- Compares the decimal `d` with the number `n * 2 ^ e`, exactly. -/
def compareDecimal (d : Decimal) (n : Nat) (e : Int) : Ordering :=
  compare (d.digits * Nat.pow 10 d.exponent.toNat * Nat.pow 2 (-e).toNat)
    (n * Nat.pow 2 e.toNat * Nat.pow 10 (-d.exponent).toNat)

/-- Whether `d` lies among the numbers that round to the magnitude: between the midpoints to its two
neighbours, themselves included when the significand is even. -/
def readsBack (m : Magnitude) (d : Decimal) : Bool :=
  let lower := if m.narrowBelow then 4 * m.significand - 1 else 4 * m.significand - 2
  let upper := 4 * m.significand + 2
  let closed := m.significand % 2 == 0
  let atLower := compareDecimal d lower (m.exponent - 2)
  let atUpper := compareDecimal d upper (m.exponent - 2)
  (atLower == .gt || (closed && atLower == .eq)) && (atUpper == .lt || (closed && atUpper == .eq))

/-- The number of decimal digits of `n`. -/
def digitCount (n : Nat) : Nat :=
  n.repr.length

/-- The exponent of the leading decimal digit of `num / den`, for positive `num` and `den`. -/
def leadingExponent (num den : Nat) : Int :=
  if den ≤ num then (digitCount (num / den) : Int) - 1
  else
    let count := digitCount (den / num)
    if den = num * Nat.pow 10 (count - 1) then 1 - (count : Int) else -(count : Int)

/-- The decimal `digits * 10 ^ exponent`, where digits that have become the power of ten above
`count` digits are carried into the exponent. -/
def carried (count digits : Nat) (exponent : Int) : Decimal :=
  if digits = Nat.pow 10 count then ⟨1, exponent + count⟩ else ⟨digits, exponent⟩

/-- The neighbour of the magnitude on the grid of `count` digits that reads back to it, if there is
one; the nearer if both do, and the one that `tie` says if they are equally near. -/
def onGrid (tie : Tie) (m : Magnitude) (leading : Int) (count : Nat) : Option Decimal :=
  let grid := leading + 1 - (count : Int)
  let num := m.numerator * Nat.pow 10 (-grid).toNat
  let den := m.denominator * Nat.pow 10 grid.toNat
  let below : Decimal := ⟨num / den, grid⟩
  let above := carried count (num / den + 1) grid
  match m.readsBack below, m.readsBack above with
  | true, true =>
    let lower := match compare (2 * (num % den)) den with
      | .lt => true
      | .eq => tie.takesLower (num / den)
      | .gt => false
    some (if lower then below else above)
  | true, false => some below
  | false, true => some above
  | false, false => none

/-- The exact value of the magnitude as a decimal. -/
def exactDecimal (m : Magnitude) : Decimal :=
  ⟨m.numerator * Nat.pow 5 (-m.exponent).toNat, min m.exponent 0⟩

end Magnitude

namespace Decimal

/-- The decimal with the fewest digits that reads back to a positive magnitude. Seventeen digits
always do. -/
def shortest (tie : Tie) (m : Magnitude) : Decimal :=
  let leading := Magnitude.leadingExponent m.numerator m.denominator
  ((List.range 17).findSome? fun i => m.onGrid tie leading (i + 1)).getD m.exactDecimal

/-- The digits of a decimal without an exponent: zeros are filled in up to the point, and the point
is written only before a fraction. -/
def plain (d : Decimal) : String :=
  let ds := d.digits.repr
  if 0 ≤ d.exponent then ds ++ "".pushn '0' d.exponent.toNat
  else
    let places := (-d.exponent).toNat
    if places < ds.length then
      (ds.take (ds.length - places)).copy ++ "." ++ (ds.drop (ds.length - places)).copy
    else "0." ++ "".pushn '0' (places - ds.length) ++ ds

/-- The digits of a decimal as one digit, a fraction and a signed exponent of ten. -/
def scientific (d : Decimal) : String :=
  let ds := d.digits.repr
  let exponent := d.exponent + ds.length - 1
  let fraction := if ds.length = 1 then "" else "." ++ (ds.drop 1).copy
  (ds.take 1).copy ++ fraction ++ "e" ++ (if exponent < 0 then "-" else "+") ++
    exponent.natAbs.repr

/-- The text of a double around the digits of its magnitude: its sign, and the names of what has no
digits. -/
def signed (x : Float) (digits : Magnitude → String) : String :=
  if x.isNaN then "NaN"
  else
    let body := if x.isInf then "inf" else digits (.ofFloat x)
    if signBit x then "-" ++ body else body

/-- The text of a double in messages: the fewest digits that read back, the greater ones of two
equally near, with neither exponent nor trailing point. -/
def plainText (x : Float) : String :=
  signed x fun m => if m.significand = 0 then "0" else (shortest .up m).plain

/-- The text of a finite double in JSON: the fewest digits that read back, even ones of two equally
near, with a fraction even if it is zero; an exponent is written below `1e-5` and from `1e16` on. -/
def numberText (x : Float) : String :=
  signed x fun m =>
    if m.significand = 0 then "0.0"
    else
      let d := shortest .toEven m
      let leading := d.exponent + d.digits.repr.length - 1
      if leading < -5 || 16 ≤ leading then d.scientific
      else if 0 ≤ d.exponent then d.plain ++ ".0"
      else d.plain

end Decimal

end PlanarArm
