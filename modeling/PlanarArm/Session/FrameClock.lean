import PlanarArm.Scalar.Basic

/-!
# The clock of a session

Frames come at moments of a clock that counts nanoseconds. A frame lets the time pass that has gone
by since the frame before it, but no more than a limit, so that an arm that was held up does not
jump.
-/

namespace PlanarArm

/-- Nanoseconds in a second. -/
def nanosPerSecond : Nat :=
  1000000000

/-- A number of nanoseconds in seconds: the whole seconds and their fraction are converted on their
own and added. -/
def secondsOfNanos {α : Type} [Scalar α] (nanos : Nat) : α :=
  Scalar.ofNat (nanos / nanosPerSecond) +
    Scalar.ofNat (nanos % nanosPerSecond) / Scalar.ofNat nanosPerSecond

/-- The moment of the last frame and the most time that a frame lets pass. -/
structure FrameClock (α : Type) where
  /-- The moment of the last frame, in nanoseconds; there is none at first and after a reset. -/
  last : Option Nat
  /-- The most time that a frame lets pass, in seconds. -/
  maxStep : α

namespace FrameClock

variable {α : Type} [Scalar α]

/-- The most time that a frame lets pass unless another is chosen, in seconds. -/
def standardMaxStep : α :=
  0.1

/-- A clock before its first frame. A limit that is not positive and finite is replaced by the
standard one. -/
def create (maxStep : α) : FrameClock α :=
  if Scalar.isFinite maxStep && decide ((0.0 : α) < maxStep) then ⟨none, maxStep⟩
  else ⟨none, standardMaxStep⟩

/-- The time that a frame at the moment `now` lets pass, in seconds, and the clock after it. The
first frame lets none pass, and neither does one that is not later than the frame before it. -/
def step (c : FrameClock α) (now : Nat) : α × FrameClock α :=
  let gone : α := match c.last with
    | some before => secondsOfNanos (now - before)
    | none => 0.0
  (Scalar.minNum gone c.maxStep, ⟨some now, c.maxStep⟩)

/-- The next frame will count as the first one. -/
def reset (c : FrameClock α) : FrameClock α :=
  ⟨none, c.maxStep⟩

end FrameClock

end PlanarArm
