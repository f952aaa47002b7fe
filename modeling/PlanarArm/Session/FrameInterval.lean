import PlanarArm.Decimal.Binary64
import PlanarArm.Decimal.Rounding
import PlanarArm.Session.FrameClock

/-!
# The time between frames

A frame rate is turned into a whole number of nanoseconds. Very low rates have no such number, since
an interval has to be below `2 ^ 64` seconds, and very high ones have the number zero, with which
frames cannot be timed (`IntervalFault`).
-/

namespace PlanarArm

/-- The frames per second of a session that was given no usable rate. -/
def standardFrameRate : Float :=
  60.0

/-- The most seconds of an interval, and one more. -/
def intervalBound : Nat :=
  Nat.pow 2 64

/-- The time in nanoseconds nearest to a non-negative number of seconds, a half going to the even
neighbour; none from `intervalBound` seconds on. -/
def nanosOfSeconds? (seconds : Float) : Option Nat :=
  if !seconds.isFinite then none
  else
    let m := Magnitude.ofFloat seconds
    if m.denominator * intervalBound ≤ m.numerator then none
    else some (roundDiv (m.numerator * nanosPerSecond) m.denominator)

/-- The time between frames at a rate, in nanoseconds. A rate that is not positive and finite is
replaced by the standard one. -/
def frameInterval? (rate : Float) : Option Nat :=
  let rate := if rate.isFinite && decide (0.0 < rate) then rate else standardFrameRate
  nanosOfSeconds? (1.0 / rate)

/-- Why frames cannot be timed. -/
inductive IntervalFault where
  /-- The time between frames is too long to be measured. -/
  | tooLong
  /-- There is no time between frames. -/
  | zero
deriving DecidableEq, Repr

/-- The time between frames, if frames can be timed with it. -/
def timedInterval (rate : Float) : Except IntervalFault Nat :=
  match frameInterval? rate with
  | none => .error .tooLong
  | some 0 => .error .zero
  | some nanos => .ok nanos

end PlanarArm
