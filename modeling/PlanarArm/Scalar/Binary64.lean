import PlanarArm.Scalar.Basic
import PlanarArm.Scalar.Root
import PlanarArm.Decimal.Shortest

/-!
# Doubles as scalars

The number system that runs. Two operations are computed here and not by the machine: the
remainder, which is exact (`exactRemainder`), and the length of a hypotenuse, which is rounded only
once (`hypotenuse`).
-/

namespace PlanarArm

/-- The remainder of `x` on division by `m`, with the sign of `x` and without rounding: both
numbers are brought to their smaller power of two, and the whole-number remainder is scaled back.
There is none for an infinite `x` or for `m = 0`, and an infinite `m` leaves `x` as it is. -/
def exactRemainder (x m : Float) : Float :=
  if x.isNaN || m.isNaN || x.isInf || m == 0 then 0.0 / 0.0
  else if m.isInf then x
  else
    let a := Magnitude.ofFloat x
    let b := Magnitude.ofFloat m
    let least := min a.exponent b.exponent
    let rest := Float.scaleB (Float.ofNat (a.inUnits least % b.inUnits least)) least
    if signBit x then -rest else rest

/-- The remainder of `x` on division by `m` that is not negative. -/
def nonnegRemainder (x m : Float) : Float :=
  let r := exactRemainder x m
  if r < 0.0 then r + m.abs else r

/-- The exponent of the least place of a double whose leading binary digit has the exponent
`leading`. -/
def leastPlace (leading : Int) : Int :=
  max (leading - 52) (-1074)

/-- The double nearest to the length of the hypotenuse over legs `x` and `y`: the sum of the squares
is exact, and its root is rounded once, to the last place of the result. An infinite leg wins over
one that is no number. -/
def hypotenuse (x y : Float) : Float :=
  if x.isInf || y.isInf then 1.0 / 0.0
  else if x.isNaN || y.isNaN then 0.0 / 0.0
  else
    let a := Magnitude.ofFloat x
    let b := Magnitude.ofFloat y
    let least := min a.exponent b.exponent
    let square := a.inUnits least * a.inUnits least + b.inUnits least * b.inUnits least
    let place := leastPlace (least + (square.log2 / 2 : Nat))
    let root := roundRoot (square * Nat.pow 4 (least - place).toNat)
      (Nat.pow 4 (place - least).toNat)
    Float.scaleB (Float.ofNat root) place

instance : Scalar Float where
  decLt := inferInstance
  decLe := inferInstance
  ofNat := Float.ofNat
  pi := 3.141592653589793
  sqrt := Float.sqrt
  sin := Float.sin
  cos := Float.cos
  atan2 := Float.atan2
  hypot := hypotenuse
  modulo := nonnegRemainder
  text := Decimal.plainText

end PlanarArm
