import PlanarArm.Decimal.Rounding
import PlanarArm.Decimal.Shortest

/-!
# A double with a set number of decimal places

Both layouts round the exact value of the double, a half to the even neighbour, and a value that
rounds to zero has no sign.
-/

namespace PlanarArm.Decimal

/-- The number `units / 10 ^ places`, with all its places. -/
def withPlaces (places units : Nat) : String :=
  let ds := units.repr
  let padded := "".pushn '0' (places + 1 - ds.length) ++ ds
  (padded.take (padded.length - places)).copy ++ "." ++ (padded.drop (padded.length - places)).copy

/-- A double with `places` digits after the point. -/
def fixed (places : Nat) (x : Float) : String :=
  if x.isNaN || x.isInf then plainText x
  else
    let m := Magnitude.ofFloat x
    let units := roundDiv (m.numerator * Nat.pow 10 places) m.denominator
    let text := withPlaces places units
    if signBit x && units ≠ 0 then "-" ++ text else text

/-- A double other than zero as one digit, `places` digits after the point and an exponent of ten,
which has a sign only if it is negative. -/
def exponential (places : Nat) (x : Float) : String :=
  signed x fun m =>
    let leading := Magnitude.leadingExponent m.numerator m.denominator
    let grid := leading - (places : Int)
    let units :=
      roundDiv (m.numerator * Nat.pow 10 (-grid).toNat) (m.denominator * Nat.pow 10 grid.toNat)
    let (units, leading) :=
      if units = Nat.pow 10 (places + 1) then (Nat.pow 10 places, leading + 1) else (units, leading)
    withPlaces places units ++ "e" ++ toString leading

end PlanarArm.Decimal
