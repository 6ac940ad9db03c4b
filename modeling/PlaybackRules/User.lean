import PlaybackRules.Record.Reader
import PlaybackRules.Record.Writer

/-!
# Users

The accounts on a media server that own sessions.
-/

namespace PlaybackRules

/-- An account on a media server. -/
structure User where
  id : String
  username : String := ""
  trustScore : Int := 100
  createdAt : Moment
  /-- The last playback activity, none if there never was any. -/
  lastActivityAt : Option Moment := none
  deriving DecidableEq, Repr

namespace User

def read : Reader User := .record fun entries =>
  mk <$> Reader.required "id" .string entries
    <*> Reader.optional "username" .string "" entries
    <*> Reader.optional "trust_score" .int 100 entries
    <*> Reader.required "created_at" .moment entries
    <*> Reader.optional "last_activity_at" (.nullable .moment) none entries

def write (user : User) : Value := .object [
  ("id", .str user.id),
  ("username", .str user.username),
  ("trust_score", .int user.trustScore),
  ("created_at", .ofMoment user.createdAt),
  ("last_activity_at", .ofOption .ofMoment user.lastActivityAt)]

end User

end PlaybackRules
