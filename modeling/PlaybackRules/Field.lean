import PlaybackRules.Value

/-!
# Fields

The attributes of a session, its user and its server that a condition can observe.
-/

namespace PlaybackRules

/-- What a condition observes. -/
inductive Field where
  | concurrentStreams
  | activeSessionDistance
  | travelSpeed
  | uniqueIps
  | uniqueDevices
  | inactiveDays
  | sourceResolution
  | outputResolution
  | isTranscoding
  | isTranscodeDowngrade
  | sourceBitrate
  | userId
  | trustScore
  | accountAge
  | deviceType
  | clientName
  | platform
  | isLocalNetwork
  | country
  | ipInRange
  | serverId
  | libraryId
  | mediaType
  deriving DecidableEq, Repr, Inhabited

namespace Field

/-- All fields. -/
def all : List Field := [
  concurrentStreams, activeSessionDistance, travelSpeed, uniqueIps, uniqueDevices, inactiveDays,
  sourceResolution, outputResolution, isTranscoding, isTranscodeDowngrade, sourceBitrate,
  userId, trustScore, accountAge, deviceType, clientName, platform, isLocalNetwork, country,
  ipInRange, serverId, libraryId, mediaType]

/-- The written form. -/
def name : Field → String
  | concurrentStreams => "concurrent_streams"
  | activeSessionDistance => "active_session_distance_km"
  | travelSpeed => "travel_speed_kmh"
  | uniqueIps => "unique_ips_in_window"
  | uniqueDevices => "unique_devices_in_window"
  | inactiveDays => "inactive_days"
  | sourceResolution => "source_resolution"
  | outputResolution => "output_resolution"
  | isTranscoding => "is_transcoding"
  | isTranscodeDowngrade => "is_transcode_downgrade"
  | sourceBitrate => "source_bitrate_mbps"
  | userId => "user_id"
  | trustScore => "trust_score"
  | accountAge => "account_age_days"
  | deviceType => "device_type"
  | clientName => "client_name"
  | platform => "platform"
  | isLocalNetwork => "is_local_network"
  | country => "country"
  | ipInRange => "ip_in_range"
  | serverId => "server_id"
  | libraryId => "library_id"
  | mediaType => "media_type"

/-- The field with a written form. -/
def ofName? (name : String) : Option Field := all.find? fun field => field.name == name

/-- The field that an untyped value names. -/
def ofValue? : Value → Option Field
  | .str name => ofName? name
  | _ => none

end Field

end PlaybackRules
