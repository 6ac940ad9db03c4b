import PlaybackRules.Proofs.Verdict

/-!
# The selectors of transcoding

A text threshold of the transcoding condition selects a track, either of the two tracks, or neither
of them.  A track selector goes by the decision on that track, and the other two by the flag of the
session, so these are each other's opposite.  What the four say fits together if and only if the
flag is up exactly where a track is transcoded (`Session.FlagFits`,
`Observation.isTranscoding_consistent_iff`).
-/

namespace PlaybackRules

/-- The condition with a text as its threshold. -/
def Condition.withText (condition : Condition) (text : String) : Condition :=
  { condition with value := .scalar (.str text) }

/-- Does the session transcode what is selected, by the decisions on its tracks? -/
def Session.Transcodes (session : Session) : Observation.Track → Prop
  | .video => session.videoDecision = some "transcode"
  | .audio => session.audioDecision = some "transcode"
  | .videoOrAudio =>
    session.videoDecision = some "transcode" ∨ session.audioDecision = some "transcode"
  | .neither =>
    ¬(session.videoDecision = some "transcode" ∨ session.audioDecision = some "transcode")

/-- The flag of the session is up exactly where a track is transcoded. -/
def Session.FlagFits (session : Session) : Prop :=
  session.isTranscode = true ↔ session.Transcodes .videoOrAudio

namespace Observation

/-- The text that selects a track. -/
def Track.name : Track → String
  | video => "video"
  | audio => "audio"
  | videoOrAudio => "video_or_audio"
  | neither => "neither"

theorem Track.ofName?_name (track : Track) : ofName? track.name = some track := by
  cases track <;> rfl

theorem matched_isTranscoding_of_text (context : Context) {condition : Condition} {text : String}
    (h : condition.threshold = .str text) :
    (isTranscoding context condition).matched =
      (transcodingOf context.session (Track.ofName? text)).1 := by
  unfold isTranscoding
  rw [h]

/-- Does a session match where the threshold selects a track?  The operator is immaterial. -/
def Selects (context : Context) (condition : Condition) (track : Track) : Prop :=
  (isTranscoding context (condition.withText track.name)).matched = true

section Selects

variable {context : Context} {condition : Condition}

theorem selects_iff (track : Track) : Selects context condition track ↔
    (transcodingOf context.session (some track)).1 = true := by
  unfold Selects
  rw [matched_isTranscoding_of_text context rfl, Track.ofName?_name]

theorem selects_video_iff :
    Selects context condition .video ↔ context.session.Transcodes .video := by
  rw [selects_iff, transcodingOf, beq_iff_eq, Session.Transcodes]

theorem selects_audio_iff :
    Selects context condition .audio ↔ context.session.Transcodes .audio := by
  rw [selects_iff, transcodingOf, beq_iff_eq, Session.Transcodes]

theorem selects_videoOrAudio_iff :
    Selects context condition .videoOrAudio ↔ context.session.isTranscode = true := by
  rw [selects_iff, transcodingOf]

theorem selects_neither_iff :
    Selects context condition .neither ↔ ¬context.session.isTranscode = true := by
  rw [selects_iff, transcodingOf, Bool.not_eq_true', Bool.not_eq_true]

/-- The track selectors say what the decisions on the tracks say, and `neither` is the opposite of
`video_or_audio`.  But these two go by the flag of the session, so that they fit the track selectors
exactly if the flag fits the decisions. -/
theorem isTranscoding_consistent_iff (context : Context) (condition : Condition) :
    (Selects context condition .video ↔ context.session.Transcodes .video) ∧
    (Selects context condition .audio ↔ context.session.Transcodes .audio) ∧
    (Selects context condition .neither ↔ ¬Selects context condition .videoOrAudio) ∧
    ((Selects context condition .videoOrAudio ↔
        Selects context condition .video ∨ Selects context condition .audio) ↔
      context.session.FlagFits) ∧
    ((Selects context condition .neither ↔
        ¬Selects context condition .video ∧ ¬Selects context condition .audio) ↔
      context.session.FlagFits) := by
  have hneither : Selects context condition .neither ↔
      ¬Selects context condition .videoOrAudio := by
    rw [selects_neither_iff, selects_videoOrAudio_iff]
  have hfits : (Selects context condition .videoOrAudio ↔
      Selects context condition .video ∨ Selects context condition .audio) ↔
        context.session.FlagFits := by
    rw [selects_videoOrAudio_iff, selects_video_iff, selects_audio_iff]
    rfl
  refine ⟨selects_video_iff, selects_audio_iff, hneither, hfits, ?_⟩
  rw [hneither, ← not_or, not_iff_not]
  exact hfits

end Selects

/-- The flag is down while the audio is transcoded, and up while no track is. -/
theorem isTranscoding_inconsistent :
    let audioOnly : Context := { Context.lone with session := { Context.lone.session with
      videoDecision := some "directplay", audioDecision := some "transcode" } }
    let flagOnly : Context := { Context.lone with session := { Context.lone.session with
      isTranscode := true, videoDecision := some "copy", audioDecision := some "copy" } }
    let condition : Condition := { field := .known .isTranscoding, operator := .eq }
    let matched (context : Context) (text : String) :=
      (isTranscoding context (condition.withText text)).matched
    matched audioOnly "audio" = true ∧ matched audioOnly "video_or_audio" = false ∧
      matched audioOnly "neither" = true ∧
      matched flagOnly "video" = false ∧ matched flagOnly "audio" = false ∧
      matched flagOnly "video_or_audio" = true ∧ matched flagOnly "neither" = false := by
  decide +kernel

end Observation

end PlaybackRules
