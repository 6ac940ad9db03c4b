import PlaybackRules.Moment.Basic
import PlaybackRules.Number.Binary64

/-!
# Unix timestamps

A number stands for the moment that many seconds after the start of 1970 in UTC or, when it is
larger than any plausible count of seconds, that many milliseconds.
-/

namespace PlaybackRules

namespace Stamp

/-- Counts of seconds reach this far; beyond, a number counts milliseconds. -/
def secondsLimit : Nat := 20000000000

/-- The seconds from the first midnight of the year 1 to the start of 1970. -/
def unixEpoch : Int := 719162 * 86400

/-- The first second of the year 1 and the last of the year 9999, the span of timestamps. -/
def unixSpan : Int × Int := (-unixEpoch, 253402300799)

/-- The time a number of microseconds after the start of 1970. -/
def ofUnixMicros? (micros : Int) : Option Stamp :=
  let seconds := micros / 1000000
  if unixSpan.1 ≤ seconds ∧ seconds ≤ unixSpan.2 then
    (CivilTime.ofSeconds? (seconds + unixEpoch).toNat (micros % 1000000).toNat).map
      fun civil => ⟨civil, some .utc⟩
  else none

/-- The microseconds that one stands for in a number of the given size, rounded up: those of a
second, or those of a millisecond. -/
def unixUnit (size : Nat) : Nat := if size ≤ secondsLimit then 1000000 else 1000

/-- The time of an integer number of seconds or milliseconds. -/
def ofUnix? (count : Int) : Option Stamp := ofUnixMicros? (count * unixUnit count.natAbs)

/-- The time of a binary number of seconds or milliseconds.  Its floor counts exactly; what lies
above the floor is turned into microseconds by a binary product and rounded half up. -/
def ofUnixFloat? : Binary64 → Option Stamp
  | .finite negative steps =>
    let one := Binary64.one
    let whole := steps / one
    let rest := steps % one
    let size := if rest = 0 then whole else whole + 1
    let floor : Int := if negative then -size else whole
    let above := if negative ∧ rest ≠ 0 then Binary64.roundSteps (one - rest) 1 else rest
    let unit := unixUnit size
    let micros := Binary64.roundSteps (above * unit) 1
    ofUnixMicros? (floor * unit + (2 * micros + one) / (2 * one))
  | _ => none

end Stamp

end PlaybackRules
