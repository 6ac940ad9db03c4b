import PlaybackRules.Distance
import PlaybackRules.Moment.Window
import PlaybackRules.Observation.Context

/-!
# Observations of behaviour

How many sessions a user has at once, how far apart they are, how fast the user would have to
travel between them, from how many addresses and devices they came within a window of time, and how
long the user has been away.  Distances and speeds are compared as they are and reported with two
decimals.  What is observed of distances is relative to the functions of angles that they are
computed with; the observations that run use those of the machine.
-/

namespace PlaybackRules

/-- The larger of two numbers; nan as the second is passed over. -/
def Binary64.max (a b : Binary64) : Binary64 := if a.below b then b else a

namespace Observation

/-- The user's sessions at once, the current one included. -/
def concurrentStreams (context : Context) (condition : Condition) : Finding :=
  let peers := context.peers context.active condition
  let count := Value.int (peers.length + 1 : Nat)
  { condition.find count with related := some (peers.map Session.id) }

/-- The largest of some distances, zero if there is none. -/
def largest (found : List (String × Binary64)) : Binary64 :=
  found.foldl (fun most (_, distance) => most.max distance) .zero

end Observation

/-! ### Distance -/

namespace Trigonometry

variable (t : Trigonometry)

/-- The distance in kilometres between two sessions, none if a coordinate is missing. -/
def distance (a b : Session) : Except Failure (Option Binary64) :=
  match a.latitude, a.longitude, b.latitude, b.longitude with
  | some lat₁, some lon₁, some lat₂, some lon₂ => some <$> t.greatCircle lat₁ lon₁ lat₂ lon₂
  | _, _, _, _ => .ok none

/-- The distances from a session to those of others that have one. -/
def distances (session : Session) : List Session → Except Failure (List (String × Binary64))
  | [] => .ok []
  | peer :: peers => do
    match ← t.distance session peer with
    | some distance => return (peer.id, distance) :: (← distances session peers)
    | none => distances session peers

/-- The largest distance to another active session of the user. -/
def activeSessionDistance (context : Context) (condition : Condition) : Except Failure Finding := do
  let peers := context.peers context.active condition
  if peers.isEmpty then
    return { condition.find (.int 0) with related := some [] }
  else
    let found ← t.distances context.session peers
    let largest := Observation.largest found
    let rounded := found.foldl (fun entries (id, distance) =>
      Entries.set entries id (.float distance.roundHundredths)) []
    return {
      matched := condition.holds (.float largest)
      actual := .float largest.roundHundredths
      related := some (peers.map Session.id)
      details := some [("distances", .object rounded)] }

end Trigonometry

/-! ### Travel -/

namespace Observation

/-- The first of the sessions that started last. -/
def latest : List Session → Option Session
  | [] => none
  | session :: sessions => some (sessions.foldl (fun best next =>
      if best.startedAt.instant < next.startedAt.instant then next else best) session)

/-- Microseconds in hours: seconds first, then hours, each rounded. -/
def hoursOf (micros : Int) : Binary64 :=
  .ofRatio (micros < 0) micros.natAbs 1000000 / .finite false (3600 * Binary64.one)

/-- The speed in kilometres per hour over a distance within a time.  Sessions in two places at once
cannot be travelled between. -/
def speed (distance : Binary64) (micros : Int) : Binary64 :=
  if micros ≤ 0 then
    if Binary64.zero.below distance then .infinite false else .zero
  else distance / hoursOf micros

/-- Where a session was located. -/
def location (session : Session) : Value := .object [
  ("lat", .ofOption .float session.latitude),
  ("lon", .ofOption .float session.longitude),
  ("city", .ofOption .str session.city),
  ("country", .ofOption .str session.country)]

end Observation

section Travel

open Observation

variable (t : Trigonometry)

/-- What is found about the travel from a previous session to the current one. -/
def Trigonometry.travelFrom (session previous : Session) (condition : Condition) :
    Except Failure Finding := do
  match ← t.distance session previous with
  | none => return { condition.find (.int 0) with related := some [previous.id] }
  | some distance =>
    let micros := session.startedAt.since previous.startedAt
    let speed := speed distance micros
    return {
      matched := condition.holds (.float speed)
      actual := .float speed.roundHundredths
      related := some [previous.id]
      details := some [
        ("distance", .float distance.roundHundredths),
        ("time_delta_hours", .float (hoursOf micros).roundHundredths),
        ("previous_location", location previous),
        ("current_location", location session)] }

/-- The speed needed to get from the user's previous session to the current one. -/
def Trigonometry.travelSpeed (context : Context) (condition : Condition) :
    Except Failure Finding :=
  match latest (context.peers context.recent condition) with
  | none => .ok (condition.find (.int 0))
  | some previous => t.travelFrom context.session previous condition

end Travel

/-! ### With the functions of the machine -/

/-- The distance in kilometres between two sessions, with the functions of the machine. -/
def Session.distance : Session → Session → Except Failure (Option Binary64) :=
  Trigonometry.machine.distance

namespace Observation

/-- The largest distance to another active session, with the functions of the machine. -/
def activeSessionDistance : Context → Condition → Except Failure Finding :=
  Trigonometry.machine.activeSessionDistance

/-- The speed of travel from the previous session, with the functions of the machine. -/
def travelSpeed : Context → Condition → Except Failure Finding := Trigonometry.machine.travelSpeed

/-! ### Windows -/

/-- The window of a condition in hours: its own, or the default. -/
def windowHours (defaultWindow : Except Failure Binary64) (condition : Condition) :
    Except Failure Value :=
  match condition.params.get? "window_hours" with
  | none | some .null => .float <$> defaultWindow
  | some hours => .ok hours

/-- The user's recent sessions that started in the window before the current one. -/
def sessionsWithin (context : Context) (hours : Value) : Except Failure (List Session) := do
  let cutoff ← Window.cutoff context.session.startedAt hours
  return (context.recent.map (·.session context.session)).filter fun session =>
    session.userId == context.user.id && cutoff ≤ session.startedAt.instant

/-- The members of a list in order of first occurrence. -/
def distinct (items : List String) : List String :=
  items.foldl (fun seen item => if seen.contains item then seen else seen ++ [item]) []

/-- The name by which a session's device goes: its identifier, else the name of its player. -/
def deviceName (session : Session) : String :=
  session.deviceId.getD (session.playerName.getD "unknown")

/-- Counts the distinct names that sessions in the window give rise to. -/
def distinctInWindow (key : String) (name : Session → String)
    (defaultWindow : Except Failure Binary64) (context : Context) (condition : Condition) :
    Except Failure Finding := do
  let hours ← windowHours defaultWindow condition
  let sessions ← sessionsWithin context hours
  let names := distinct ((context.session :: sessions).map name)
  return { condition.find (.int names.length) with
    details := some [(key, .ofList .str names), ("window_hours", hours)] }

/-- The distinct addresses in the window. -/
def uniqueIps := distinctInWindow "ips" Session.ipAddress

/-- The distinct devices in the window. -/
def uniqueDevices := distinctInWindow "devices" deviceName

/-! ### Absence -/

/-- The whole days since the user's last activity or, without any, since the account was made. -/
def inactiveDays (context : Context) (condition : Condition) : Finding :=
  let since := context.user.lastActivityAt.getD context.user.createdAt
  { condition.find (.int (context.now.daysSince since)) with
    details := some [("last_activity_at", .ofOption .ofMoment context.user.lastActivityAt)] }

end Observation

end PlaybackRules
