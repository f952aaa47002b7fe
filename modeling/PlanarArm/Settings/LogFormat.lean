import PlanarArm.Text.Blank

/-!
# The layout of log lines
-/

namespace PlanarArm

/-- How log lines are laid out. -/
inductive LogFormat where
  /-- One short line each. -/
  | compact
  /-- One JSON object each. -/
  | json
deriving DecidableEq, Repr

namespace LogFormat

/-- The name of the layout. -/
def name : LogFormat → String
  | .compact => "Compact"
  | .json => "Json"

/-- The layout that a setting asks for: JSON if it says so, with white space around it and in any
case of letters, and the short one otherwise. -/
def ofSetting (setting : Option String) : LogFormat :=
  match setting with
  | some text => if Text.lower (Text.trim text.toList) = "json".toList then .json else .compact
  | none => .compact

end LogFormat

end PlanarArm
