import PlaybackRules.Failure
import PlaybackRules.Moment.Basic
import PlaybackRules.Value

/-!
# Windows of time

A window is a number of hours, which may be fractional, zero or negative.  It is rounded to whole
microseconds, a tie to the even one, and laid before a moment; where it begins is the cutoff.
-/

namespace PlaybackRules

namespace Window

/-- The microseconds of one hour. -/
def hour : Nat := 3600000000

/-- The microseconds of a binary number of hours.  The whole hours count exactly; the fraction of
an hour is multiplied out, rounded to a binary number, and then to a whole microsecond. -/
def ofBinary (negative : Bool) (steps : Nat) : Int :=
  let fraction := Binary64.roundSteps (steps % Binary64.one * hour) 1
  let micros := steps / Binary64.one * hour + roundQuotient fraction Binary64.one
  if negative then -micros else micros

/-- Windows longer than this many days are refused. -/
def dayLimit : Int := 999999999

/-- A window of a number of microseconds, if it is not too long. -/
def ofMicros (micros : Int) : Except Failure Int :=
  let days := micros / CivilTime.dayLength
  if -dayLimit ≤ days ∧ days ≤ dayLimit then .ok micros else .error .windowRange

/-- The microseconds of a window, a boolean counting as 0 or 1. -/
def micros : Value → Except Failure Int
  | .bool b => ofMicros (b.toNat * hour)
  | .int n => ofMicros (n * hour)
  | .float (.finite negative steps) => ofMicros (ofBinary negative steps)
  | .float (.infinite _) => .error .windowRange
  | .float .nan => .error .windowNaN
  | _ => .error .windowKind

/-- The instant at which a window before a moment begins.  It must fall within the calendar at the
moment's own offset. -/
def cutoff (moment : Moment) (window : Value) : Except Failure Int := do
  let length ← micros window
  if CivilTime.inCalendar (moment.civil.micros - length) then .ok (moment.instant - length)
  else .error .windowRange

end Window

end PlaybackRules
