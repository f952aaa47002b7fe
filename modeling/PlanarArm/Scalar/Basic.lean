/-!
# Numbers an arm is computed with

`Scalar α` lists what the geometry and the timing of an arm ask of a number: arithmetic, order, a
few functions of trigonometry, and a text for messages. Every formula of the library is written
once over it, so that the text which runs on binary floating-point numbers is also a text about
exact real numbers.

The order is not assumed total. A number that does not compare with itself is *not a number*
(`Scalar.isNaN`), and a number whose difference with itself is none is not finite
(`Scalar.isFinite`).
-/

namespace PlanarArm

/-- The operations on numbers that describe and move an arm. -/
class Scalar (α : Type) extends Add α, Sub α, Mul α, Div α, Neg α, LT α, LE α,
    OfScientific α where
  /-- `a < b` can be decided. -/
  decLt : DecidableLT α
  /-- `a ≤ b` can be decided. -/
  decLe : DecidableLE α
  /-- The number nearest to a natural number. -/
  ofNat : Nat → α
  /-- Half the circumference of the unit circle. -/
  pi : α
  /-- The non-negative square root. -/
  sqrt : α → α
  /-- The sine of an angle in radians. -/
  sin : α → α
  /-- The cosine of an angle in radians. -/
  cos : α → α
  /-- The angle of the point with ordinate `y` (first) and abscissa `x` (second), in `[-π, π]`. -/
  atan2 : α → α → α
  /-- The length of the hypotenuse over two legs. -/
  hypot : α → α → α
  /-- The remainder of the first number on division by the second, a positive one; not negative. -/
  modulo : α → α → α
  /-- The number as it appears in messages. -/
  text : α → String

namespace Scalar

variable {α : Type} [Scalar α]

instance : DecidableLT α := Scalar.decLt

instance : DecidableLE α := Scalar.decLe

/-- Whether `x` is no number at all: it does not even compare with itself. -/
def isNaN (x : α) : Bool :=
  !decide (x ≤ x)

/-- Whether `x` is a number and not infinite: only then does `x - x` compare with itself. -/
def isFinite (x : α) : Bool :=
  decide (x - x ≤ x - x)

/-- Whether two numbers are equal. No number equals nothing, not even itself. -/
def same (a b : α) : Bool :=
  decide (a ≤ b) && decide (b ≤ a)

/-- The distance from zero. -/
def abs (x : α) : α :=
  if x < 0.0 then -x else x

/-- The greater of two numbers; against no number the other one wins. -/
def maxNum (a b : α) : α :=
  if a < b then b else if isNaN a then b else a

/-- The lesser of two numbers; against no number the other one wins. -/
def minNum (a b : α) : α :=
  if b < a then b else if isNaN a then b else a

/-- The nearest number to `x` between `lo` and `hi`, for `lo ≤ hi`; no number stays as it is. -/
def clamp (lo hi x : α) : α :=
  if x < lo then lo else if hi < x then hi else x

/-- An angle in radians from one in degrees. -/
def ofDegrees (x : α) : α :=
  x * (pi / 180.0)

/-- An angle in degrees from one in radians. -/
def toDegrees (x : α) : α :=
  x * (180.0 / pi)

end Scalar

end PlanarArm
