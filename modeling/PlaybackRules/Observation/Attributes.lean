import PlaybackRules.Address.Range
import PlaybackRules.Media.Client
import PlaybackRules.Observation.Context

/-!
# Observations of attributes

What is known of the user, the client, the network and the scope without looking at other sessions.
-/

namespace PlaybackRules.Observation

/-! ### The user -/

def userId (context : Context) (condition : Condition) : Finding :=
  condition.find (.str context.user.id)

def trustScore (context : Context) (condition : Condition) : Finding :=
  condition.find (.int context.user.trustScore)

/-- The whole days since the account was made. -/
def accountAge (context : Context) (condition : Condition) : Finding :=
  condition.find (.int (context.now.daysSince context.user.createdAt))

/-! ### The client -/

def deviceType (context : Context) (condition : Condition) : Finding :=
  condition.find (.str (DeviceClass.classify context.session.device context.session.platform).name)

def clientName (context : Context) (condition : Condition) : Finding :=
  let session := context.session
  condition.find (.str (PlaybackRules.clientName session.product session.playerName))

def platform (context : Context) (condition : Condition) : Finding :=
  condition.find (.str (Platform.classify context.session.platform).name)

/-! ### The network -/

/-- Whether the session's address is private, by the context's own account. -/
def isLocalNetwork (context : Context) (condition : Condition) : Except Failure Finding := do
  let answer ← context.isPrivate context.session.ipAddress
  return condition.find (.bool answer.isTruthy)

/-- The country of the session, empty if it is missing. -/
def country (context : Context) (condition : Condition) : Finding :=
  condition.find (.str (context.session.country.getD ""))

/-- Does an address lie in one of several ranges?  They are tried in order up to the first that
holds it; one that is no text holds nothing. -/
def isInSomeRange (ip : String) : List Value → Except Failure Bool
  | [] => .ok false
  | range :: ranges => do
    if ← IPv4.valueWithin (.str ip) range then return true else isInSomeRange ip ranges

/-- Whether the session's IPv4 address lies in the range of the threshold, or in one of its list.
Any other address, operator or threshold never matches. -/
def ipInRange (context : Context) (condition : Condition) : Except Failure Finding := do
  let ip := context.session.ipAddress
  if ip == "" then return { matched := false, actual := .null }
  else if (IPv4.parse? ip).isNone then return { matched := false, actual := .str ip }
  else
    match condition.operator, condition.threshold with
    | .isIn, .list ranges => return { matched := ← isInSomeRange ip ranges, actual := .str ip }
    | .notIn, .list ranges => return { matched := !(← isInSomeRange ip ranges), actual := .str ip }
    | .eq, .str range => return { matched := ← IPv4.isWithin ip range, actual := .str ip }
    | .neq, .str range => return { matched := !(← IPv4.isWithin ip range), actual := .str ip }
    | _, _ => return { matched := false, actual := .str ip }

/-! ### The scope -/

def serverId (context : Context) (condition : Condition) : Finding :=
  condition.find (.str context.server.id)

/-- Sessions carry no library yet, so every one reports an empty library. -/
def libraryId (_ : Context) (condition : Condition) : Finding := condition.find (.str "")

def mediaType (context : Context) (condition : Condition) : Finding :=
  condition.find (.ofOption .str context.session.mediaType)

end PlaybackRules.Observation
