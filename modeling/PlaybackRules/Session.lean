import PlaybackRules.Record.Reader
import PlaybackRules.Record.Writer

/-!
# Playback sessions

A session as a media server reports it: who plays what, from where, on which client, and how the
stream is delivered.  A session and the details of a video stream each have a reader and a writer.
-/

namespace PlaybackRules

/-- The dimensions of a video stream in pixels and its bit rate in bits per second. -/
structure VideoDetails where
  width : Option Int := none
  height : Option Int := none
  bitrate : Option Int := none
  deriving DecidableEq, Repr

namespace VideoDetails

def read : Reader VideoDetails := .record fun entries =>
  mk <$> Reader.optional "width" (.nullable .int) none entries
    <*> Reader.optional "height" (.nullable .int) none entries
    <*> Reader.optional "bitrate" (.nullable .int) none entries

def write (details : VideoDetails) : Value := .object [
  ("width", .ofOption .int details.width),
  ("height", .ofOption .int details.height),
  ("bitrate", .ofOption .int details.bitrate)]

end VideoDetails

/-- A playback session. -/
structure Session where
  id : String
  serverId : String := ""
  /-- The user who owns the session. -/
  userId : String
  startedAt : Moment
  state : String := "playing"
  ipAddress : String := ""
  latitude : Option Binary64 := none
  longitude : Option Binary64 := none
  city : Option String := none
  country : Option String := none
  /-- A stable identifier of the client device. -/
  deviceId : Option String := none
  playerName : Option String := none
  product : Option String := none
  device : Option String := none
  platform : Option String := none
  mediaType : Option String := none
  isTranscode : Bool := false
  videoDecision : Option String := none
  audioDecision : Option String := none
  /-- The bit rate of the session in bits per second. -/
  bitrate : Option Int := none
  sourceWidth : Option Int := none
  sourceHeight : Option Int := none
  sourceVideo : Option VideoDetails := none
  streamVideo : Option VideoDetails := none
  deriving DecidableEq, Repr

namespace Session

def read : Reader Session := .record fun entries =>
  mk <$> Reader.required "id" .string entries
    <*> Reader.optional "server_id" .string "" entries
    <*> Reader.required "server_user_id" .string entries
    <*> Reader.required "started_at" .moment entries
    <*> Reader.optional "state" .string "playing" entries
    <*> Reader.optional "ip_address" .string "" entries
    <*> Reader.optional "geo_lat" (.nullable .float) none entries
    <*> Reader.optional "geo_lon" (.nullable .float) none entries
    <*> Reader.optional "geo_city" (.nullable .string) none entries
    <*> Reader.optional "geo_country" (.nullable .string) none entries
    <*> Reader.optional "device_id" (.nullable .string) none entries
    <*> Reader.optional "player_name" (.nullable .string) none entries
    <*> Reader.optional "product" (.nullable .string) none entries
    <*> Reader.optional "device" (.nullable .string) none entries
    <*> Reader.optional "platform" (.nullable .string) none entries
    <*> Reader.optional "media_type" (.nullable .string) none entries
    <*> Reader.optional "is_transcode" .bool false entries
    <*> Reader.optional "video_decision" (.nullable .string) none entries
    <*> Reader.optional "audio_decision" (.nullable .string) none entries
    <*> Reader.optional "bitrate" (.nullable .int) none entries
    <*> Reader.optional "source_video_width" (.nullable .int) none entries
    <*> Reader.optional "source_video_height" (.nullable .int) none entries
    <*> Reader.optional "source_video_details" (.nullable VideoDetails.read) none entries
    <*> Reader.optional "stream_video_details" (.nullable VideoDetails.read) none entries

/-- The entries of a session's record. -/
def entries (session : Session) : Entries := [
  ("id", .str session.id),
  ("server_id", .str session.serverId),
  ("server_user_id", .str session.userId),
  ("started_at", .ofMoment session.startedAt),
  ("state", .str session.state),
  ("ip_address", .str session.ipAddress),
  ("geo_lat", .ofOption .float session.latitude),
  ("geo_lon", .ofOption .float session.longitude),
  ("geo_city", .ofOption .str session.city),
  ("geo_country", .ofOption .str session.country),
  ("device_id", .ofOption .str session.deviceId),
  ("player_name", .ofOption .str session.playerName),
  ("product", .ofOption .str session.product),
  ("device", .ofOption .str session.device),
  ("platform", .ofOption .str session.platform),
  ("media_type", .ofOption .str session.mediaType),
  ("is_transcode", .bool session.isTranscode),
  ("video_decision", .ofOption .str session.videoDecision),
  ("audio_decision", .ofOption .str session.audioDecision),
  ("bitrate", .ofOption .int session.bitrate),
  ("source_video_width", .ofOption .int session.sourceWidth),
  ("source_video_height", .ofOption .int session.sourceHeight),
  ("source_video_details", .ofOption VideoDetails.write session.sourceVideo),
  ("stream_video_details", .ofOption VideoDetails.write session.streamVideo)]

def write (session : Session) : Value := .object session.entries

/-- The session with some fields of its record replaced, read afresh. -/
def update (session : Session) (changes : Entries) : Checked Session :=
  read (.object (changes.foldl (fun entries (key, value) => Entries.set entries key value)
    session.entries))

/-- Does the decision to transcode the video or the audio differ between two sessions? -/
def transcodeChanged (previous current : Session) : Bool :=
  previous.videoDecision != current.videoDecision || previous.audioDecision != current.audioDecision

end Session

end PlaybackRules
