import PlaybackRules.Proofs.Selectors

/-!
# Inequality as the opposite of equality

Under `neq` a condition finds what it finds under `eq`, and matches where that does not: the two
findings are each other's opposite, and one fails as the other does (`Field.observe_neq`).  This is
so of every field that compares what it observes with the threshold; address ranges answer for
themselves.  Nor is there a comparison where the threshold of the transcoding condition is a text,
for that selects what has to be transcoded; if it selects nothing, the condition matches under no
operator.
-/

namespace PlaybackRules

/-- The condition with another operator. -/
def Condition.withOperator (condition : Condition) (operator : Operator) : Condition :=
  { condition with operator }

/-- The same finding, matched where it was not. -/
def Finding.negate (finding : Finding) : Finding := { finding with matched := !finding.matched }

/-- What follows one and the same observation is opposite if each step from it is. -/
theorem Finding.negate_bind {α : Type} {f g : α → Except Failure Finding}
    (h : ∀ a, f a = negate <$> g a) (x : Except Failure α) : x >>= f = negate <$> (x >>= g) := by
  cases x with
  | error failure => rfl
  | ok a => exact h a

namespace Observation

variable (t : Trigonometry) (context : Context) (condition : Condition)

/-! ## Observations that can fail -/

theorem activeSessionDistance_neq :
    t.activeSessionDistance context (condition.withOperator .neq) =
      Finding.negate <$> t.activeSessionDistance context (condition.withOperator .eq) := by
  have hpeers : ∀ op, context.peers context.active (condition.withOperator op) =
      context.peers context.active condition := fun _ => rfl
  unfold Trigonometry.activeSessionDistance
  rw [hpeers, hpeers]
  by_cases hempty : (context.peers context.active condition).isEmpty = true
  · rw [if_pos hempty, if_pos hempty]
    rfl
  · rw [if_neg hempty, if_neg hempty]
    refine Finding.negate_bind (fun found => ?_) _
    rfl

theorem travelSpeed_neq :
    t.travelSpeed context (condition.withOperator .neq) =
      Finding.negate <$> t.travelSpeed context (condition.withOperator .eq) := by
  have hpeers : ∀ op, context.peers context.recent (condition.withOperator op) =
      context.peers context.recent condition := fun _ => rfl
  unfold Trigonometry.travelSpeed
  rw [hpeers, hpeers]
  cases latest (context.peers context.recent condition) with
  | none => rfl
  | some previous =>
      refine Finding.negate_bind (fun distance? => ?_) _
      cases distance? with
      | none => rfl
      | some distance => rfl

theorem distinctInWindow_neq (key : String) (name : Session → String)
    (window : Except Failure Binary64) :
    distinctInWindow key name window context (condition.withOperator .neq) =
      Finding.negate <$> distinctInWindow key name window context (condition.withOperator .eq) := by
  unfold distinctInWindow
  refine Finding.negate_bind (fun hours => ?_) _
  refine Finding.negate_bind (fun sessions => ?_) _
  rfl

theorem isLocalNetwork_neq :
    isLocalNetwork context (condition.withOperator .neq) =
      Finding.negate <$> isLocalNetwork context (condition.withOperator .eq) := by
  unfold isLocalNetwork
  refine Finding.negate_bind (fun answer => ?_) _
  rfl

theorem sourceBitrate_neq :
    sourceBitrate context (condition.withOperator .neq) =
      Finding.negate <$> sourceBitrate context (condition.withOperator .eq) := by
  unfold sourceBitrate
  by_cases hfinite : (megabits (effectiveBitrate context.session)).isFinite = true
  · simp only [if_pos hfinite]
    rfl
  · simp only [if_neg hfinite]
    rfl

/-! ## Observations of transcoding -/

theorem isTranscodeDowngrade_neq :
    isTranscodeDowngrade context (condition.withOperator .neq) =
      (isTranscodeDowngrade context (condition.withOperator .eq)).negate := by
  unfold isTranscodeDowngrade
  by_cases htranscode : context.session.isTranscode = true
  · simp only [if_pos htranscode]
    rfl
  · simp only [if_neg htranscode]
    rfl

/-- A threshold that is no text is compared with the flag of the session. -/
theorem isTranscoding_neq (h : ∀ text, condition.threshold ≠ .str text) :
    isTranscoding context (condition.withOperator .neq) =
      (isTranscoding context (condition.withOperator .eq)).negate := by
  have hthreshold : ∀ op, (condition.withOperator op).threshold = condition.threshold :=
    fun _ => rfl
  unfold isTranscoding
  rw [hthreshold, hthreshold]
  cases hvalue : condition.threshold with
  | str text => exact absurd hvalue (h text)
  | _ => rfl

/-- A text that selects nothing is matched by no session. -/
theorem isTranscoding_of_no_track {text : String} (htext : condition.threshold = .str text)
    (htrack : Track.ofName? text = none) : (isTranscoding context condition).matched = false := by
  rw [matched_isTranscoding_of_text context htext, htrack]
  rfl

end Observation

/-! ## All fields -/

/-- Of the fields other than address ranges, each finds under `neq` the opposite of what it finds
under `eq`, or fails under both; but transcoding does so only if the threshold is no text.  A text
that selects nothing is matched under no operator. -/
theorem Field.observe_neq {field : Field} (hfield : field ≠ .ipInRange)
    (window : Except Failure Binary64) (context : Context) (condition : Condition) :
    ((field = .isTranscoding → ∀ text, condition.threshold ≠ .str text) →
      field.observe window context (condition.withOperator .neq) =
        Finding.negate <$> field.observe window context (condition.withOperator .eq)) ∧
    (field = .isTranscoding → ∀ text, condition.threshold = .str text →
      Observation.Track.ofName? text = none → ∀ op, ∃ finding,
        field.observe window context (condition.withOperator op) = .ok finding ∧
          finding.matched = false) := by
  constructor
  · intro hcompared
    cases field with
    | activeSessionDistance =>
        exact Observation.activeSessionDistance_neq .machine context condition
    | travelSpeed => exact Observation.travelSpeed_neq .machine context condition
    | uniqueIps => exact Observation.distinctInWindow_neq context condition _ _ window
    | uniqueDevices => exact Observation.distinctInWindow_neq context condition _ _ window
    | isTranscoding =>
        exact congrArg Except.ok (Observation.isTranscoding_neq context condition (hcompared rfl))
    | isTranscodeDowngrade =>
        exact congrArg Except.ok (Observation.isTranscodeDowngrade_neq context condition)
    | sourceBitrate => exact Observation.sourceBitrate_neq context condition
    | isLocalNetwork => exact Observation.isLocalNetwork_neq context condition
    | ipInRange => exact absurd rfl hfield
    | _ => rfl
  · rintro rfl text htext htrack op
    exact ⟨_, rfl, Observation.isTranscoding_of_no_track context (condition.withOperator op) htext
      htrack⟩

/-- A threshold that equals nothing, and a text that names no track. -/
theorem Field.observe_neq_nan :
    let condition : Condition :=
      { field := .known .trustScore, operator := .eq, value := .scalar (.float .nan) }
    let named := condition.withText "subtitles"
    let window : Except Failure Binary64 := .error .noRule
    Field.trustScore ≠ .ipInRange ∧ Field.isTranscoding ≠ .ipInRange ∧
      (Field.trustScore.observe window Context.lone (condition.withOperator .neq)).map (·.matched) =
        .ok true ∧
      ∀ op, ∃ finding,
        Field.isTranscoding.observe window Context.lone (named.withOperator op) = .ok finding ∧
          finding.matched = false := by
  intro condition named window
  have hscore : Field.trustScore ≠ .ipInRange := by decide
  have htranscoding : Field.isTranscoding ≠ .ipInRange := by decide
  obtain ⟨hopposite, -⟩ := Field.observe_neq hscore window Context.lone condition
  obtain ⟨-, hnothing⟩ := Field.observe_neq htranscoding window Context.lone named
  refine ⟨hscore, htranscoding, ?_, hnothing rfl "subtitles" rfl rfl⟩
  rw [hopposite nofun]
  decide +kernel

/-- A text threshold of the transcoding condition gives the same under `eq` and `neq`: both match,
or neither does. -/
theorem Field.observe_neq_not_opposite :
    let context : Context := { Context.lone with session := { Context.lone.session with
      isTranscode := true, videoDecision := some "transcode", audioDecision := some "copy" } }
    let matched (operator : Operator) (text : String) :=
      (Field.isTranscoding.observe (.error .noRule) context
        { field := .known .isTranscoding, operator, value := .scalar (.str text) }).map (·.matched)
    (matched .eq "video" = .ok true ∧ matched .neq "video" = .ok true) ∧
      matched .eq "subtitles" = .ok false ∧ matched .neq "subtitles" = .ok false := by
  decide +kernel

end PlaybackRules
