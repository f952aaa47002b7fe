/-!
# The calendar

The lengths of the months of the Gregorian calendar, by which written dates are checked.
-/

namespace PlanarArm.Text

/-- Whether a year has a leap day. -/
def isLeap (year : Int) : Bool :=
  (year % 4 == 0 && year % 100 != 0) || year % 400 == 0

/-- The number of days of a month. -/
def daysIn (year : Int) (month : Nat) : Nat :=
  match month with
  | 2 => if isLeap year then 29 else 28
  | 4 | 6 | 9 | 11 => 30
  | _ => 31

end PlanarArm.Text
