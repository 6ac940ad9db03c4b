import PlaybackRules.Proofs.Transcode

/-!
# Changes that go unnoticed

The state of transcoding counts as changed when a decision on a track changes.  The flag of the
session and the size of the delivered video are not compared, so a rule that asks about these can
come to something else unnoticed (`Engine.unnoticed_of_flag_of_size`).

Nothing else is missed.  Where the decisions are the same, a condition comes to the same unless it
looks at the flag and that changed, or at the tier of the delivered video and that changed
(`Field.observe_of_decidedAlike`); so does a rule without such a condition, and the evaluation that
is saved would have given what was known (`Engine.evaluateRule_of_unnoticed`).
-/

namespace PlaybackRules

/-! ## What a condition looks at -/

/-- Two sessions with the same decisions on their tracks. -/
structure Session.DecidedAlike (session other : Session) : Prop where
  video : other.videoDecision = session.videoDecision
  audio : other.audioDecision = session.audioDecision

theorem Session.decidedAlike_iff {session other : Session} :
    session.transcodeChanged other = false ↔ session.DecidedAlike other := by
  unfold transcodeChanged
  rw [Bool.or_eq_false_iff, bne_eq_false_iff_eq, bne_eq_false_iff_eq]
  exact ⟨fun h => ⟨h.1.symm, h.2.symm⟩, fun h => ⟨h.video.symm, h.audio.symm⟩⟩

/-- Does a named track stand for the session as a whole? -/
def Observation.Track.isOverall : Option Track → Bool
  | some videoOrAudio => true
  | some neither => true
  | _ => false

/-- Does a condition look at the flag of the session?  One on transcoding does, unless its threshold
is a text that does not stand for the session as a whole. -/
def Condition.seesFlag (condition : Condition) : Bool :=
  match condition.field.field? with
  | some .isTranscodeDowngrade => true
  | some .isTranscoding =>
    match condition.threshold with
    | .str name => Observation.Track.isOverall (Observation.Track.ofName? name)
    | _ => true
  | _ => false

/-- Does a condition look at the tier of the delivered video? -/
def Condition.seesOutput (session : Session) (condition : Condition) : Bool :=
  match condition.field.field? with
  | some .outputResolution => true
  | some .isTranscodeDowngrade => session.isTranscode
  | _ => false

/-- What a condition looks at beside the decisions is the same in two sessions. -/
structure Condition.SeenAlike (session other : Session) (condition : Condition) : Prop where
  flag : condition.seesFlag = true → other.isTranscode = session.isTranscode
  output : condition.seesOutput session = true → other.outputTier = session.outputTier

/-! ## Observations -/

section Observations

variable {context context' : Context} {condition : Condition}
  (hdecided : context.session.DecidedAlike context'.session)

namespace Observation

theorem transcodingOf_congr {session other : Session} (hdecided : session.DecidedAlike other)
    {track : Option Track}
    (hflag : Track.isOverall track = true → other.isTranscode = session.isTranscode) :
    transcodingOf other track = transcodingOf session track := by
  match track with
  | none => rfl
  | some .video => rw [transcodingOf, transcodingOf, hdecided.video]
  | some .audio => rw [transcodingOf, transcodingOf, hdecided.audio]
  | some .videoOrAudio =>
      rw [transcodingOf, transcodingOf, transcodingOf.overall, transcodingOf.overall, hflag rfl]
  | some .neither =>
      rw [transcodingOf, transcodingOf, transcodingOf.overall, transcodingOf.overall, hflag rfl]

include hdecided in
theorem isTranscoding_congr (hfield : condition.field.field? = some .isTranscoding)
    (hflag : condition.seesFlag = true →
      context'.session.isTranscode = context.session.isTranscode) :
    isTranscoding context' condition = isTranscoding context condition := by
  unfold Condition.seesFlag at hflag
  rw [hfield] at hflag
  unfold isTranscoding
  cases hthreshold : condition.threshold with
  | str name =>
      rw [hthreshold] at hflag
      simp only [hdecided.video, hdecided.audio, transcodingOf_congr hdecided hflag]
  | _ =>
      rw [hthreshold] at hflag
      simp only [hdecided.video, hdecided.audio, hflag rfl]

theorem outputResolution_congr
    (houtput : context'.session.outputTier = context.session.outputTier) :
    outputResolution context' condition = outputResolution context condition := by
  rw [outputResolution, outputResolution, houtput]

theorem isTranscodeDowngrade_congr
    (hflag : context'.session.isTranscode = context.session.isTranscode)
    (hsource : context'.session.sourceTier = context.session.sourceTier)
    (houtput : context.session.isTranscode = true →
      context'.session.outputTier = context.session.outputTier) :
    isTranscodeDowngrade context' condition = isTranscodeDowngrade context condition := by
  unfold isTranscodeDowngrade
  by_cases h : context.session.isTranscode = true
  · simp only [hflag, if_pos h, hsource, houtput h]
  · simp only [hflag, if_neg h]

end Observation

end Observations

section Rules

variable {old : Context} {state : Session}

variable (old) in
/-- Where the decisions are the same, a condition observes the same unless something else that it
looks at changed. -/
theorem Field.observe_of_decidedAlike {condition : Condition} {field : Field}
    (hfield : condition.field.field? = some field)
    (hdecided : old.session.DecidedAlike (old.withTranscode state).session)
    (hseen : condition.SeenAlike old.session (old.withTranscode state).session)
    (window : Except Failure Binary64) :
    field.observe window (old.withTranscode state) condition =
      field.observe window old condition := by
  obtain ⟨hflag, houtput⟩ := hseen
  by_cases hmem : field ∈ Rule.transcodeFields
  · simp only [Rule.transcodeFields, List.mem_cons, List.not_mem_nil, or_false] at hmem
    rcases hmem with rfl | rfl | rfl
    · exact congrArg Except.ok (Observation.isTranscoding_congr hdecided hfield hflag)
    · have hflag' := hflag (by simp only [Condition.seesFlag, hfield])
      refine congrArg Except.ok (Observation.isTranscodeDowngrade_congr hflag' rfl fun h => ?_)
      exact houtput (by simp only [Condition.seesOutput, hfield, h])
    · have houtput' := houtput (by simp only [Condition.seesOutput, hfield])
      exact congrArg Except.ok (Observation.outputResolution_congr houtput')
  · exact Field.observe_withTranscode old state condition hmem window

/-- What a rule looks at beside the decisions is the same in two sessions. -/
def Rule.SeenAlike (session other : Session) (rule : Rule) : Prop :=
  ∀ group ∈ rule.conditions.getD [], ∀ condition ∈ group, condition.SeenAlike session other

theorem Engine.evaluateRule_of_decidedAlike (suspends : Bool) (config : Configuration) (mode : Mode)
    {rule : Rule} (hdecided : old.session.DecidedAlike (old.withTranscode state).session)
    (hseen : rule.SeenAlike old.session (old.withTranscode state).session) :
    ({ suspends } : Engine).evaluateRule config mode ((old.withTranscode state).withRule rule) =
      ({ suspends } : Engine).evaluateRule config mode (old.withRule rule) := by
  refine Engine.evaluateRule_congr fun group hgroup condition hcondition => ?_
  refine Engine.start_builtIn_congr fun field hfield => ⟨?_, rfl⟩
  exact Field.observe_of_decidedAlike (old.withRule rule) hfield hdecided
    (hseen group hgroup condition hcondition) _

theorem Engine.contribution_of_decidedAlike (suspends : Bool) (config : Configuration)
    (mode : Mode) {rule : Rule}
    (hdecided : old.session.DecidedAlike (old.withTranscode state).session)
    (hseen : rule.SeenAlike old.session (old.withTranscode state).session) :
    ({ suspends } : Engine).contribution config mode (old.withTranscode state) rule =
      ({ suspends } : Engine).contribution config mode old rule := by
  have happlicable : rule.isApplicable (old.withTranscode state) = rule.isApplicable old := rfl
  have hrun := Engine.evaluateRule_of_decidedAlike suspends config mode hdecided hseen
  unfold Engine.contribution Engine.passRule
  rw [happlicable, hrun]

end Rules

/-- Let the state of transcoding of the current session not count as changed, so that nothing is
evaluated anew.  A rule comes to the same as before, and the same happens, unless it looks at the
flag or at the tier of the delivered video and that changed.  For such rules nothing is lost. -/
theorem Engine.evaluateRule_of_unnoticed (suspends : Bool) (config : Configuration) (mode : Mode)
    (old : Context) (state : Session)
    (h : old.session.transcodeChanged (old.withTranscode state).session = false) :
    let engine : Engine := { suspends }
    let current := old.withTranscode state
    (∀ rule : Rule, rule.SeenAlike old.session current.session →
      engine.evaluateRule config mode (current.withRule rule) =
        engine.evaluateRule config mode (old.withRule rule)) ∧
    ∀ (rules : List Rule) (trace : TraceState),
      engine.reevaluate config current rules old.session trace = { trace } ∧
      ((∀ rule ∈ rules, rule.SeenAlike old.session current.session) →
        (engine.evaluateRules config mode current rules trace).results =
          (engine.evaluateRules config mode old rules trace).results) := by
  intro engine current
  have hdecided := Session.decidedAlike_iff.1 h
  refine ⟨fun rule => Engine.evaluateRule_of_decidedAlike suspends config mode hdecided,
    fun rules trace => ⟨if_neg (ne_true_of_eq_false h), fun hseen => ?_⟩⟩
  rw [Engine.results_evaluateRules, Engine.results_evaluateRules]
  refine List.flatMap_congr fun rule hrule => ?_
  exact Engine.contribution_of_decidedAlike suspends config mode hdecided (hseen rule hrule)

/-- The delivered video of a stream that is transcoded all along grows within its tier. -/
theorem Engine.evaluateRule_of_unnoticed_size :
    let engine : Engine := {}
    let old : Context := { Context.lone with session := { Context.lone.session with
      isTranscode := true, videoDecision := some "transcode"
      streamVideo := some { width := some 1280, height := some 720 } } }
    let state : Session := { old.session with
      streamVideo := some { width := some 1366, height := some 768 } }
    let rule : Rule := { id := "rule", name := "Rule", conditions := some [[
      { field := .known .isTranscodeDowngrade, operator := .eq, value := .scalar (.bool true) },
      { field := .known .outputResolution, operator := .gte, value := .scalar (.str "720p") }]] }
    old.session.transcodeChanged (old.withTranscode state).session = false ∧
      rule.SeenAlike old.session (old.withTranscode state).session ∧
      engine.evaluateRule (.ok {}) .async ((old.withTranscode state).withRule rule) =
        engine.evaluateRule (.ok {}) .async (old.withRule rule) ∧
      (engine.evaluateRules (.ok {}) .async (old.withTranscode state) [rule] {}).results =
        (engine.evaluateRules (.ok {}) .async old [rule] {}).results := by
  intro engine old state rule
  have htier : (old.withTranscode state).session.outputTier = old.session.outputTier := by
    decide +kernel
  have hunchanged : old.session.transcodeChanged (old.withTranscode state).session = false := by
    decide
  have hseen : rule.SeenAlike old.session (old.withTranscode state).session :=
    fun _ _ _ _ => ⟨fun _ => rfl, fun _ => htier⟩
  obtain ⟨hrule, hrules⟩ :=
    Engine.evaluateRule_of_unnoticed false (.ok {}) .async old state hunchanged
  exact ⟨hunchanged, hseen, hrule rule hseen,
    (hrules [rule] {}).2 fun _ hmem => List.mem_singleton.1 hmem ▸ hseen⟩

/-- Whether a rule matches, if its evaluation gives a result. -/
def Engine.matches? (engine : Engine) (context : Context) (rule : Rule) : Option Bool :=
  (engine.evaluateRule (.ok {}) .async (context.withRule rule)).outcome.toOption.map (·.matched)

/-- The flag of a session goes up while its decisions stay, and so does the size of the delivered
video.  Each time a rule comes to match, and no rule is evaluated anew. -/
theorem Engine.unnoticed_of_flag_of_size :
    let engine : Engine := {}
    let flagged := Context.lone.withTranscode { Context.lone.session with isTranscode := true }
    let flag : Rule := { id := "flag", name := "Flag", conditions := some [[
      { field := .known .isTranscoding, operator := .eq, value := .scalar (.bool true) }]] }
    let sized := Context.lone.withTranscode { Context.lone.session with
      streamVideo := some { width := some 3840, height := some 2160 } }
    let size : Rule := { id := "size", name := "Size", conditions := some [[
      { field := .known .outputResolution, operator := .gte, value := .scalar (.str "4K") }]] }
    (Context.lone.session.transcodeChanged flagged.session = false ∧
      engine.matches? Context.lone flag = some false ∧ engine.matches? flagged flag = some true ∧
      (engine.reevaluate (.ok {}) flagged [flag] Context.lone.session {}).results = []) ∧
    Context.lone.session.transcodeChanged sized.session = false ∧
      engine.matches? Context.lone size = some false ∧ engine.matches? sized size = some true ∧
      (engine.reevaluate (.ok {}) sized [size] Context.lone.session {}).results = [] := by
  intro engine flagged flag sized size
  refine ⟨⟨rfl, ?_, ?_, rfl⟩, rfl, ?_, ?_, rfl⟩
  · rfl
  · rfl
  · decide +kernel
  · decide +kernel

end PlaybackRules
