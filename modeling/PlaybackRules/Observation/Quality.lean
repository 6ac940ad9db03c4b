import PlaybackRules.Media.Tier
import PlaybackRules.Observation.Context

/-!
# Observations of stream quality

The resolution of the source and of the stream, whether and which tracks are transcoded, whether
that lowers the resolution, and the bit rate of the source.
-/

namespace PlaybackRules

/-- The tier of the source. -/
def Session.sourceTier (session : Session) : Tier :=
  .ofSize session.sourceWidth session.sourceHeight

/-- The tier of the stream as delivered. -/
def Session.outputTier (session : Session) : Tier :=
  .ofSize (session.streamVideo.bind (·.width)) (session.streamVideo.bind (·.height))

namespace Observation

/-- Compares a tier: by name for membership, by ordinal for all else. -/
def resolution (tier : Tier) (condition : Condition) : Finding :=
  let actual := Value.str tier.name
  match condition.operator with
  | .isIn | .notIn => condition.find actual
  | _ =>
    let target := match condition.threshold with
      | .str name => .int (Tier.ordinalOfName name)
      | threshold => threshold
    { matched := (Value.int tier.ordinal).compare condition.operator target, actual }

def sourceResolution (context : Context) (condition : Condition) : Finding :=
  resolution context.session.sourceTier condition

def outputResolution (context : Context) (condition : Condition) : Finding :=
  resolution context.session.outputTier condition

/-- The tracks that a text threshold of the transcoding condition can select. -/
inductive Track where
  | video | audio | videoOrAudio | neither
  deriving DecidableEq, Repr

def Track.ofName? : String → Option Track
  | "video" => some video
  | "audio" => some audio
  | "video_or_audio" => some videoOrAudio
  | "neither" => some neither
  | _ => none

/-- A decision on a track, where one is known. -/
def decision (text : Option String) : String := (text.filter (· != "")).getD "unknown"

/-- Whether a selected track is transcoded.  The operator is immaterial. -/
def transcodingOf (session : Session) : Option Track → Bool × String
  | some .video => (session.videoDecision == some "transcode", decision session.videoDecision)
  | some .audio => (session.audioDecision == some "transcode", decision session.audioDecision)
  | some .videoOrAudio => (session.isTranscode, overall)
  | some .neither => (!session.isTranscode, overall)
  | none => (false, "unknown")
where
  overall : String := if session.isTranscode then "transcoding" else "direct"

/-- Whether the session is transcoded.  A text threshold selects a track; any other is compared
with the session's own flag. -/
def isTranscoding (context : Context) (condition : Condition) : Finding :=
  let session := context.session
  let details : Entries := [
    ("video_decision", .ofOption .str session.videoDecision),
    ("audio_decision", .ofOption .str session.audioDecision)]
  match condition.threshold with
  | .str name =>
    let (matched, actual) := transcodingOf session (Track.ofName? name)
    { matched, actual := .str actual, details := some details }
  | _ => { condition.find (.bool session.isTranscode) with details := some details }

/-- Whether transcoding lowers the resolution. -/
def isTranscodeDowngrade (context : Context) (condition : Condition) : Finding :=
  let session := context.session
  if session.isTranscode then
    let lowered := session.outputTier.ordinal < session.sourceTier.ordinal
    { condition.find (.bool lowered) with
      details := some [
        ("source_resolution", .str session.sourceTier.name),
        ("output_resolution", .str session.outputTier.name)] }
  else condition.find (.bool false)

/-- The bit rate in bits per second: that of the source's video, else that of the session. -/
def effectiveBitrate (session : Session) : Int :=
  ((session.sourceVideo.bind (·.bitrate)).orElse fun _ => session.bitrate).getD 0

/-- The bit rate in millions of bits per second. -/
def megabits (bitrate : Int) : Binary64 := .ofRatio (bitrate < 0) bitrate.natAbs 1000000

/-- The bit rate of the source in millions of bits per second. -/
def sourceBitrate (context : Context) (condition : Condition) : Except Failure Finding :=
  let rate := megabits (effectiveBitrate context.session)
  if rate.isFinite then
    .ok { condition.find (.float rate) with actual := .float rate.roundHundredths }
  else .error .bitrateRange

end Observation

end PlaybackRules
