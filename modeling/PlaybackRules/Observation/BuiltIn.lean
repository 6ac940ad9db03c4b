import PlaybackRules.Observation.Attributes
import PlaybackRules.Observation.Behaviour
import PlaybackRules.Observation.Quality

/-!
# The built-in observation of every field
-/

namespace PlaybackRules.Field

/-- Observes a field and compares what it finds with the threshold. -/
def observe (field : Field) (defaultWindow : Except Failure Binary64) (context : Context)
    (condition : Condition) : Except Failure Finding :=
  match field with
  | concurrentStreams => .ok (Observation.concurrentStreams context condition)
  | activeSessionDistance => Observation.activeSessionDistance context condition
  | travelSpeed => Observation.travelSpeed context condition
  | uniqueIps => Observation.uniqueIps defaultWindow context condition
  | uniqueDevices => Observation.uniqueDevices defaultWindow context condition
  | inactiveDays => .ok (Observation.inactiveDays context condition)
  | sourceResolution => .ok (Observation.sourceResolution context condition)
  | outputResolution => .ok (Observation.outputResolution context condition)
  | isTranscoding => .ok (Observation.isTranscoding context condition)
  | isTranscodeDowngrade => .ok (Observation.isTranscodeDowngrade context condition)
  | sourceBitrate => Observation.sourceBitrate context condition
  | userId => .ok (Observation.userId context condition)
  | trustScore => .ok (Observation.trustScore context condition)
  | accountAge => .ok (Observation.accountAge context condition)
  | deviceType => .ok (Observation.deviceType context condition)
  | clientName => .ok (Observation.clientName context condition)
  | platform => .ok (Observation.platform context condition)
  | isLocalNetwork => Observation.isLocalNetwork context condition
  | country => .ok (Observation.country context condition)
  | ipInRange => Observation.ipInRange context condition
  | serverId => .ok (Observation.serverId context condition)
  | libraryId => .ok (Observation.libraryId context condition)
  | mediaType => .ok (Observation.mediaType context condition)

/-- The addresses that the built-in observation asks the context to classify. -/
def asks (field : Field) (context : Context) : List String :=
  match field with
  | isLocalNetwork => [context.session.ipAddress]
  | _ => []

end PlaybackRules.Field
