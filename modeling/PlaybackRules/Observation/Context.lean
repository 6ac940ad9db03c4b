import PlaybackRules.Address.Private
import PlaybackRules.Failure
import PlaybackRules.Rule
import PlaybackRules.Server
import PlaybackRules.Session
import PlaybackRules.User

/-!
# The context of an evaluation

Everything that one evaluation may look at.  The lists of active and recent sessions may hold the
current session itself, which is told apart from an equal session: `Peer.current` stands for the
very session, `Peer.other` for any other.
-/

namespace PlaybackRules

/-- A session in a list beside the current one. -/
inductive Peer where
  | current
  | other (session : Session)
  deriving DecidableEq, Repr

namespace Peer

/-- The session, given the current one. -/
def session (current : Session) : Peer → Session
  | .current => current
  | .other session => session

/-- The session unless it is the current one. -/
def other? : Peer → Option Session
  | .current => none
  | .other session => some session

end Peer

/-- What one evaluation may look at. -/
structure Context where
  session : Session
  user : User
  server : Server
  active : List Peer := []
  recent : List Peer := []
  /-- The rule under evaluation; none in a context that is shared by several. -/
  rule : Option Rule := none
  now : Moment
  /-- Is an address private?  The answer counts by its truth. -/
  isPrivate : String → Except Failure Value := fun address => .ok (.bool (isPrivateAddress address))

/-- The context with a rule attached in place of any other. -/
def Context.withRule (context : Context) (rule : Rule) : Context :=
  { context with rule := some rule }

/-- What a built-in observation finds. -/
structure Finding where
  matched : Bool
  actual : Value
  related : Option (List String) := none
  details : Option Entries := none

/-- Do two sessions run on the same known device? -/
def Session.sameDevice (a b : Session) : Bool :=
  a.deviceId.any fun id => id != "" && b.deviceId == some id

/-- Does the condition leave out sessions on the device of the current one? -/
def Condition.excludesSameDevice (condition : Condition) : Bool :=
  (condition.params.get? "exclude_same_device").any Value.isTruthy

/-- The other sessions of the user in a list. -/
def Context.peers (context : Context) (list : List Peer) (condition : Condition) : List Session :=
  (list.filterMap Peer.other?).filter fun session =>
    session.userId == context.user.id &&
      !(condition.excludesSameDevice && context.session.sameDevice session)

/-- Compares an observation with the threshold of a condition. -/
def Condition.holds (condition : Condition) (actual : Value) : Bool :=
  actual.compare condition.operator condition.threshold

/-- A finding that consists of the observation alone. -/
def Condition.find (condition : Condition) (actual : Value) : Finding :=
  { matched := condition.holds actual, actual }

end PlaybackRules
