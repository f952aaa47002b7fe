/-!
# The exact value of a binary floating-point number

A finite double is a sign and a dyadic number `significand * 2 ^ exponent`. `Magnitude.ofFloat`
reads that number off the 64 bits; all exact work on doubles (their decimal digits, their
remainders, their rounding to whole units) is done on it with natural numbers.
-/

namespace PlanarArm

/-- A finite double without its sign: the number `significand * 2 ^ exponent`. -/
structure Magnitude where
  /-- The whole-number factor, below `2 ^ 53`. -/
  significand : Nat
  /-- The power of two it is scaled by. -/
  exponent : Int
  /-- Whether the next double below is half as far away as the next one above. -/
  narrowBelow : Bool
deriving DecidableEq, Repr

namespace Magnitude

/-- The magnitude of the double with these bits, which are those of a finite one. -/
def ofBits (bits : UInt64) : Magnitude :=
  let field := ((bits >>> 52) &&& 0x7FF).toNat
  let fraction := (bits &&& 0xFFFFFFFFFFFFF).toNat
  if field = 0 then ⟨fraction, -1074, false⟩
  else ⟨Nat.pow 2 52 + fraction, (field : Int) - 1075, fraction = 0 ∧ 1 < field⟩

/-- The magnitude of a finite double. -/
def ofFloat (x : Float) : Magnitude :=
  ofBits x.toBits

/-- The magnitude in units of `2 ^ unit`, where `unit` is at most its own exponent. -/
def inUnits (m : Magnitude) (unit : Int) : Nat :=
  m.significand * Nat.pow 2 (m.exponent - unit).toNat

/-- The numerator of the magnitude as a fraction of whole numbers. -/
def numerator (m : Magnitude) : Nat :=
  m.significand * Nat.pow 2 m.exponent.toNat

/-- The denominator of the magnitude as a fraction of whole numbers, a power of two. -/
def denominator (m : Magnitude) : Nat :=
  Nat.pow 2 (-m.exponent).toNat

theorem denominator_pos (m : Magnitude) : 0 < m.denominator :=
  Nat.two_pow_pos _

end Magnitude

/-- Whether the sign bit of a double is set; it is for `-0`. -/
def signBit (x : Float) : Bool :=
  x.toBits >>> 63 == 1

end PlanarArm
