import PlaybackRules.Moment.Calendar

/-!
# Moments

A moment is a civil time at an offset from UTC; the offset is kept as it was given.  Two moments
are compared by their instants, the microseconds since the first midnight of the year 1 in UTC.

Offsets are fixed and made of whole minutes, as they are written in texts.  Two kinds of moment that
a host program could construct by itself are left out: those at an offset with seconds, and those in
a zone, whose offset changes with the civil time and whose differences within one zone are taken
between civil times.
-/

namespace PlaybackRules

/-- A fixed offset from UTC in whole minutes, less than a day either way.  There are no offsets with
seconds, and no zones. -/
structure Offset where
  minutes : Int
  minutes_lt : -1440 < minutes ∧ minutes < 1440 := by decide
  deriving DecidableEq, Repr

namespace Offset

/-- No offset. -/
def utc : Offset := ⟨0, by decide⟩

/-- The offset with the given sign, hours and minutes, if there is one. -/
def ofNumbers? (negative : Bool) (hours minutes : Nat) : Option Offset :=
  if h : hours < 24 ∧ minutes < 60 then
    let total : Nat := 60 * hours + minutes
    if negative then some ⟨-total, by omega⟩ else some ⟨total, by omega⟩
  else none

end Offset

/-- A moment: a civil time at a fixed offset from UTC.  A civil time in a zone is none. -/
structure Moment where
  civil : CivilTime
  offset : Offset
  deriving DecidableEq, Repr

namespace Moment

/-- The microseconds since the first midnight of the year 1 in UTC. -/
def instant (m : Moment) : Int := m.civil.micros - m.offset.minutes * 60000000

/-- The microseconds from one moment to another. -/
def since (later earlier : Moment) : Int := later.instant - earlier.instant

/-- The whole days from one moment to another, rounded down. -/
def daysSince (later earlier : Moment) : Int := later.since earlier / CivilTime.dayLength

end Moment

/-- A civil time that may or may not carry an offset. -/
structure Stamp where
  civil : CivilTime
  offset : Option Offset
  deriving DecidableEq, Repr

namespace Stamp

/-- The moment meant: a time without an offset is in UTC. -/
def moment (s : Stamp) : Moment := ⟨s.civil, s.offset.getD .utc⟩

end Stamp

/-- A moment as a stamp. -/
def Moment.stamp (m : Moment) : Stamp := ⟨m.civil, some m.offset⟩

end PlaybackRules
