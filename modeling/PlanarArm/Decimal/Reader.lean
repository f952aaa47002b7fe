/-!
# Reading a double from decimal text

The grammar is a sign, then either the name of a value without digits (`inf`, `infinity`, `nan`, in
any case) or digits with at most one point and an exponent. There is at least one digit before the
exponent, blanks are refused, and the value is the double nearest to the number written.
-/

namespace PlanarArm.Decimal

/-- A number as it was written: whole and fractional digits and the power of ten behind them. -/
structure Numeral where
  /-- The digits before the point. -/
  whole : List Char
  /-- The digits after the point. -/
  fraction : List Char
  /-- The exponent of ten. -/
  exponent : Int
deriving DecidableEq, Repr

/-- The value of a run of decimal digits. -/
def digitsValue (digits : List Char) : Nat :=
  digits.foldl (fun n c => 10 * n + (c.toNat - '0'.toNat)) 0

/-- The digits at the head of a text, and what follows them. -/
def spanDigits (cs : List Char) : List Char × List Char :=
  (cs.takeWhile Char.isDigit, cs.dropWhile Char.isDigit)

/-- A sign at the head of a text, `true` for a minus, and what follows it. -/
def readSign : List Char → Bool × List Char
  | '-' :: cs => (true, cs)
  | '+' :: cs => (false, cs)
  | cs => (false, cs)

/-- The exponent that ends a numeral; the empty text is exponent zero. -/
def readExponent? : List Char → Option Int
  | [] => some 0
  | c :: cs =>
    if c = 'e' ∨ c = 'E' then
      let (negative, cs) := readSign cs
      let (digits, rest) := spanDigits cs
      if digits.isEmpty || !rest.isEmpty then none
      else if negative then some (-(digitsValue digits : Int)) else some (digitsValue digits)
    else none

/-- A numeral without sign. -/
def readNumeral? (cs : List Char) : Option Numeral :=
  let (whole, rest) := spanDigits cs
  let (fraction, rest) := match rest with
    | '.' :: rest => spanDigits rest
    | rest => ([], rest)
  if whole.isEmpty && fraction.isEmpty then none
  else (readExponent? rest).map fun e => ⟨whole, fraction, e⟩

/-- The double nearest to `digits * 10 ^ exponent`. Powers far outside the range of doubles are not
computed: the result is then infinite or zero. -/
def nearest (digits : Nat) (exponent : Int) : Float :=
  let size := exponent + digits.repr.length
  if digits = 0 ∨ size < -400 then 0.0
  else if 400 < size then 1.0 / 0.0
  else Float.ofScientific digits (exponent < 0) exponent.natAbs

/-- The double nearest to a numeral. -/
def Numeral.toFloat (n : Numeral) : Float :=
  nearest (digitsValue (n.whole ++ n.fraction)) (n.exponent - n.fraction.length)

/-- The value that a name without digits stands for. -/
def named? (cs : List Char) : Option Float :=
  let name := String.ofList (cs.map Char.toLower)
  if name = "inf" ∨ name = "infinity" then some (1.0 / 0.0)
  else if name = "nan" then some (0.0 / 0.0)
  else none

/-- The double that a text denotes, if it denotes one. -/
def read? (text : String) : Option Float :=
  let (negative, cs) := readSign text.toList
  let value := match named? cs with
    | some x => some x
    | none => (readNumeral? cs).map Numeral.toFloat
  value.map fun x => if negative then -x else x

end PlanarArm.Decimal
