import PlanarArm.Arm.Model
import PlanarArm.Command.Basic
import PlanarArm.Decimal.Reader
import PlanarArm.Scalar.Binary64
import PlanarArm.Session.FrameClock
import PlanarArm.Session.FrameInterval
import PlanarArm.Text.Blank
import PlanarArm.Toml.Reader

/-!
# Settings

What a user can set about the arm and its simulation, in the units that users think in: degrees and
metres. Settings are kept as a TOML text (`Settings.parse?`, `Settings.write`), in which any of them
may be missing, and some can be overridden from outside (`Settings.override`).
-/

namespace PlanarArm

/-- What a user can set. -/
structure Settings where
  /-- The length of the first link, in metres. -/
  link1 : Float
  /-- The length of the second link, in metres. -/
  link2 : Float
  /-- The least and the greatest angle of the shoulder, in degrees. -/
  shoulderDegrees : Float × Float
  /-- The least and the greatest angle of the elbow, in degrees. -/
  elbowDegrees : Float × Float
  /-- The greatest speed of either joint, in degrees per second. -/
  maxSpeedDegrees : Float
  /-- The speed scale to start from. -/
  initialSpeed : Float
  /-- The frames per second. -/
  frameRate : Float
  /-- The most time that a frame lets pass, in seconds. -/
  maxFrameStep : Float
  /-- The number of points of a line that does not give it. -/
  lineSteps : Nat

namespace Settings

/-- The settings of a user who has set nothing. -/
def standard : Settings where
  link1 := 1.0
  link2 := 0.75
  shoulderDegrees := (-180.0, 180.0)
  elbowDegrees := (-150.0, 150.0)
  maxSpeedDegrees := Scalar.toDegrees 2.0
  initialSpeed := 1.0
  frameRate := standardFrameRate
  maxFrameStep := FrameClock.standardMaxStep
  lineSteps := standardLineSteps

/-- The number of reports that are held for subscribers. -/
def reportCapacity : Nat :=
  256

/-- The number of requests that may wait. -/
def inboxCapacity : Nat :=
  64

/-- The arm that the settings describe, or what is wrong with it. -/
def arm (s : Settings) : Except (ArmError Float) (ArmModel Float) :=
  ArmModel.create s.link1 s.link2 (.ofDegrees s.shoulderDegrees.1 s.shoulderDegrees.2)
    (.ofDegrees s.elbowDegrees.1 s.elbowDegrees.2) (Scalar.ofDegrees s.maxSpeedDegrees)

/-! ## Reading -/

/-- The setting under a key, if it is there; then it has to be of the right type. -/
def setting? {β : Type} (members : Toml.Members) (key : String) (read : Toml.Item → Option β)
    (missing : β) : Option β :=
  match members.find? key with
  | none => some missing
  | some item => read item

/-- The settings of a table. Keys that are no settings are passed over. -/
def ofMembers? (members : Toml.Members) : Option Settings := do
  let float (key : String) (missing : Float) := setting? members key Toml.Item.float? missing
  let pair (key : String) (missing : Float × Float) :=
    setting? members key Toml.Item.floatPair? missing
  let link1 ← float "link1" standard.link1
  let link2 ← float "link2" standard.link2
  let shoulderDegrees ← pair "joint1_limits_deg" standard.shoulderDegrees
  let elbowDegrees ← pair "joint2_limits_deg" standard.elbowDegrees
  let maxSpeedDegrees ← float "max_joint_speed_deg" standard.maxSpeedDegrees
  let initialSpeed ← float "default_speed" standard.initialSpeed
  let frameRate ← float "frame_rate_hz" standard.frameRate
  let maxFrameStep ← float "max_frame_dt" standard.maxFrameStep
  let lineSteps ← setting? members "line_steps" Toml.Item.word32? standard.lineSteps
  return ⟨link1, link2, shoulderDegrees, elbowDegrees, maxSpeedDegrees, initialSpeed, frameRate,
    maxFrameStep, lineSteps⟩

/-- The settings of a text, if it is a TOML text and all settings in it are of the right type. -/
def parse? (text : String) : Option Settings :=
  (Toml.parse? text).bind ofMembers?

/-! ## Overriding -/

/-- Texts from outside that may override settings. -/
structure Overrides where
  /-- Overrides the length of the first link. -/
  link1 : Option String
  /-- Overrides the length of the second link. -/
  link2 : Option String
  /-- Overrides the greatest speed of the joints. -/
  maxSpeedDegrees : Option String
  /-- Overrides the frames per second. -/
  frameRate : Option String

/-- A number, or the one in a text if it denotes one, with white space around it. -/
def overridden (text : Option String) (value : Float) : Float :=
  match text with
  | none => value
  | some text => (Decimal.read? (String.ofList (Text.trim text.toList))).getD value

/-- The settings with those that are overridden. Texts that denote no number are passed over. -/
def override (s : Settings) (o : Overrides) : Settings :=
  { s with
    link1 := overridden o.link1 s.link1
    link2 := overridden o.link2 s.link2
    maxSpeedDegrees := overridden o.maxSpeedDegrees s.maxSpeedDegrees
    frameRate := overridden o.frameRate s.frameRate }

/-! ## Writing -/

/-- A double in a TOML text: the fewest digits that read back, without an exponent, and with a
fraction even if it is zero. -/
def numberText (x : Float) : String :=
  if x.isNaN then "nan"
  else
    let text := Decimal.plainText x
    if x.isInf || text.contains '.' then text else text ++ ".0"

/-- A line that sets a number. -/
def line (key value : String) : String :=
  key ++ " = " ++ value ++ "\n"

/-- The lines that set a pair of numbers. -/
def pairLines (key : String) (pair : Float × Float) : String :=
  key ++ " = [\n    " ++ numberText pair.1 ++ ",\n    " ++ numberText pair.2 ++ ",\n]\n"

/-- The settings as a TOML text. -/
def write (s : Settings) : String :=
  line "link1" (numberText s.link1) ++
    line "link2" (numberText s.link2) ++
    pairLines "joint1_limits_deg" s.shoulderDegrees ++
    pairLines "joint2_limits_deg" s.elbowDegrees ++
    line "max_joint_speed_deg" (numberText s.maxSpeedDegrees) ++
    line "default_speed" (numberText s.initialSpeed) ++
    line "frame_rate_hz" (numberText s.frameRate) ++
    line "max_frame_dt" (numberText s.maxFrameStep) ++
    line "line_steps" s.lineSteps.repr

/-- Whether two settings are equal. No number equals nothing. -/
def same (a b : Settings) : Bool :=
  a.link1 == b.link1 && a.link2 == b.link2 && a.shoulderDegrees == b.shoulderDegrees &&
    a.elbowDegrees == b.elbowDegrees && a.maxSpeedDegrees == b.maxSpeedDegrees &&
    a.initialSpeed == b.initialSpeed && a.frameRate == b.frameRate &&
    a.maxFrameStep == b.maxFrameStep && a.lineSteps == b.lineSteps

end Settings

end PlanarArm
