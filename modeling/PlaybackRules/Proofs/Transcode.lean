import PlaybackRules.Proofs.Behaviour
import PlaybackRules.Proofs.RuleSet

/-!
# When only the state of transcoding changes

A session whose stream is delivered in another way is the same to every observation but those of
`Rule.transcodeFields` (`Field.observe_withTranscode`), also where it is one of its own peers.  So
the rules without such a field are evaluated as before, and to evaluate the others anew is to
evaluate all of them (`Engine.reevaluate_exact`).
-/

namespace PlaybackRules

/-- The session with the state of transcoding of another. -/
def Session.withTranscode (session other : Session) : Session := { session with
  isTranscode := other.isTranscode
  videoDecision := other.videoDecision
  audioDecision := other.audioDecision
  streamVideo := other.streamVideo }

/-- The context with the current session in the state of transcoding of another.  Where the lists of
the context hold the current session itself, it changes with it. -/
def Context.withTranscode (context : Context) (other : Session) : Context :=
  { context with session := context.session.withTranscode other }

variable (context : Context) (other : Session) (condition : Condition)

/-! ## Observations -/

theorem Trigonometry.distances_withTranscode (t : Trigonometry) (session : Session) :
    ∀ peers : List Session,
      t.distances (session.withTranscode other) peers = t.distances session peers
  | [] => rfl
  | peer :: peers => by
      have hpeer : t.distance (session.withTranscode other) peer = t.distance session peer := rfl
      rw [distances_cons, distances_cons, hpeer, distances_withTranscode t session peers]

theorem Trigonometry.activeSessionDistance_withTranscode (t : Trigonometry) :
    t.activeSessionDistance (context.withTranscode other) condition =
      t.activeSessionDistance context condition := by
  have hpeers : (context.withTranscode other).peers (context.withTranscode other).active condition =
      context.peers context.active condition := rfl
  have hsession : (context.withTranscode other).session = context.session.withTranscode other := rfl
  unfold activeSessionDistance
  rw [hpeers, hsession]
  simp only [distances_withTranscode]

/-- The current session may be one of its own peers in the window, but is seen by name only. -/
theorem Context.map_since_withTranscode {name : Session → String}
    (hname : ∀ session : Session, name (session.withTranscode other) = name session)
    (cutoff : Int) : ∀ list : List Peer,
      ((context.withTranscode other).since cutoff list).map name =
        (context.since cutoff list).map name
  | [] => rfl
  | peer :: list => by
      have hpeer : name (peer.session (context.withTranscode other).session) =
          name (peer.session context.session) := by
        cases peer with
        | current => exact hname context.session
        | other session => rfl
      have huser : (peer.session (context.withTranscode other).session).userId =
          (peer.session context.session).userId := by cases peer <;> rfl
      have hstart : (peer.session (context.withTranscode other).session).startedAt =
          (peer.session context.session).startedAt := by cases peer <;> rfl
      have hlist := map_since_withTranscode hname cutoff list
      rw [Context.since_cons, Context.since_cons, huser, hstart, apply_ite (List.map name),
        apply_ite (List.map name), List.map_cons, List.map_cons, hpeer, hlist]
      rfl

theorem Observation.distinctInWindow_withTranscode {key : String} {name : Session → String}
    (hname : ∀ session : Session, name (session.withTranscode other) = name session)
    (window : Except Failure Binary64) :
    distinctInWindow key name window (context.withTranscode other) condition =
      distinctInWindow key name window context condition := by
  have hstart : (context.withTranscode other).session.startedAt = context.session.startedAt := rfl
  have hrecent : (context.withTranscode other).recent = context.recent := rfl
  have hcurrent : name (context.withTranscode other).session = name context.session :=
    hname context.session
  rw [distinctInWindow_eq, distinctInWindow_eq]
  simp only [List.map_cons, hstart, hrecent, hcurrent,
    Context.map_since_withTranscode context other hname]

/-- A field that does not depend on transcoding is observed as before. -/
theorem Field.observe_withTranscode {field : Field} (hfield : field ∉ Rule.transcodeFields)
    (window : Except Failure Binary64) :
    field.observe window (context.withTranscode other) condition =
      field.observe window context condition := by
  cases field with
  | outputResolution => exact absurd (by decide) hfield
  | isTranscoding => exact absurd (by decide) hfield
  | isTranscodeDowngrade => exact absurd (by decide) hfield
  | activeSessionDistance =>
      exact Trigonometry.machine.activeSessionDistance_withTranscode context other condition
  | uniqueIps =>
      exact Observation.distinctInWindow_withTranscode context other condition (fun _ => rfl) window
  | uniqueDevices =>
      exact Observation.distinctInWindow_withTranscode context other condition (fun _ => rfl) window
  | _ => rfl

/-! ## Rules -/

theorem Engine.start_withTranscode (config : Configuration) (ruleId : String)
    (hfield : ∀ field, condition.field.field? = some field → field ∉ Rule.transcodeFields) :
    ({} : Engine).start config (context.withTranscode other) ruleId condition =
      ({} : Engine).start config context ruleId condition :=
  Engine.start_builtIn_congr fun field hcondition =>
    ⟨Field.observe_withTranscode context other condition (hfield field hcondition) _, rfl⟩

theorem Rule.not_mem_transcodeFields {rule : Rule} (h : rule.dependsOnTranscode = false) :
    ∀ group ∈ rule.conditions.getD [], ∀ condition ∈ group, ∀ field,
      condition.field.field? = some field → field ∉ Rule.transcodeFields := by
  intro group hgroup condition hcondition field hfield hmem
  unfold Rule.dependsOnTranscode at h
  have hnone := List.any_eq_false.1 (Bool.eq_false_iff.2 (List.any_eq_false.1 h group hgroup))
    condition hcondition
  rw [hfield, Option.any_some, List.contains_iff_mem] at hnone
  exact hnone hmem

/-- A rule that does not depend on transcoding is evaluated just as before. -/
theorem Engine.evaluateRule_withTranscode (config : Configuration) (mode : Mode) {rule : Rule}
    (h : rule.dependsOnTranscode = false) :
    ({} : Engine).evaluateRule config mode ((context.withTranscode other).withRule rule) =
      ({} : Engine).evaluateRule config mode (context.withRule rule) := by
  apply Engine.evaluateRule_congr
  intro group hgroup condition hcondition
  exact Engine.start_withTranscode (context.withRule rule) other condition config rule.id
    (Rule.not_mem_transcodeFields h group hgroup condition hcondition)

theorem Engine.contribution_withTranscode (config : Configuration) (mode : Mode) {rule : Rule}
    (h : rule.dependsOnTranscode = false) :
    ({} : Engine).contribution config mode (context.withTranscode other) rule =
      ({} : Engine).contribution config mode context rule := by
  have happlicable : rule.isApplicable (context.withTranscode other) = rule.isApplicable context :=
    rfl
  unfold Engine.contribution Engine.passRule
  rw [happlicable, Engine.evaluateRule_withTranscode context other config mode h]

theorem Engine.results_reevaluate (engine : Engine) (config : Configuration) (rules : List Rule)
    {previous : Session} (h : previous.transcodeChanged context.session = true)
    (trace : TraceState) :
    (engine.reevaluate config context rules previous trace).results =
      (rules.filter (·.dependsOnTranscode)).flatMap
        (engine.contribution config .async context) := by
  unfold Engine.reevaluate
  rw [if_pos h]
  by_cases hempty : (rules.filter (·.dependsOnTranscode)).isEmpty = true
  · simp only [if_pos hempty]
    rw [List.isEmpty_iff.1 hempty]
    rfl
  · simp only [if_neg hempty]
    exact engine.results_evaluateRules config .async context _ trace

/-- Let the state of transcoding of the current session change.  Then rules that do not depend on it
are evaluated as before, the results of the evaluation anew are those of the full evaluation that
the other rules contribute, and merged with what the former contributed before they make up the
full evaluation. -/
theorem Engine.reevaluate_exact (config : Configuration) (old : Context) (state : Session)
    (rules : List Rule) :
    let engine : Engine := {}
    let current := old.withTranscode state
    (∀ mode rule, rule.dependsOnTranscode = false →
      engine.evaluateRule config mode (current.withRule rule) =
        engine.evaluateRule config mode (old.withRule rule)) ∧
    (∀ context trace, (engine.evaluateRules config .async context rules trace).results =
      rules.flatMap (engine.contribution config .async context)) ∧
    (∀ previous trace, previous.transcodeChanged current.session = true →
      (engine.reevaluate config current rules previous trace).results =
        (rules.filter (·.dependsOnTranscode)).flatMap
          (engine.contribution config .async current)) ∧
    ∀ trace, (engine.evaluateRules config .async current rules trace).results =
      rules.flatMap fun rule =>
        if rule.dependsOnTranscode then engine.contribution config .async current rule
        else engine.contribution config .async old rule := by
  intro engine current
  refine ⟨fun mode rule h => Engine.evaluateRule_withTranscode old state config mode h,
    fun context trace => engine.results_evaluateRules config .async context rules trace,
    fun previous trace h => engine.results_reevaluate current config rules h trace,
    fun trace => ?_⟩
  rw [engine.results_evaluateRules config .async current rules trace]
  congr 1
  funext rule
  cases h : rule.dependsOnTranscode with
  | true => rfl
  | false => exact Engine.contribution_withTranscode old state config .async h

/-- A stream of the lone session goes over to transcoding, and one of two rules asks about it. -/
theorem Engine.reevaluate_exact_lone :
    let engine : Engine := {}
    let state : Session := { Context.lone.session with
      isTranscode := true, videoDecision := some "transcode" }
    let current := Context.lone.withTranscode state
    let asking : Rule := { id := "asking", name := "Asking", conditions := some [[
      { field := .known .isTranscoding, operator := .eq, value := .scalar (.str "video") }]] }
    let other : Rule := { id := "other", name := "Other" }
    (Context.lone.session.transcodeChanged current.session = true ∧
      (engine.reevaluate (.ok {}) current [asking, other] Context.lone.session {}).results =
        engine.contribution (.ok {}) .async current asking) ∧
    other.dependsOnTranscode = false ∧
      engine.evaluateRule (.ok {}) .async (current.withRule other) =
        engine.evaluateRule (.ok {}) .async (Context.lone.withRule other) := by
  intro engine state current asking other
  obtain ⟨hskipped, -, hanew, -⟩ :=
    Engine.reevaluate_exact (.ok {}) .lone state [asking, other]
  have hchanged : Context.lone.session.transcodeChanged current.session = true := by decide
  refine ⟨⟨hchanged, ?_⟩, rfl, hskipped .async other rfl⟩
  exact (hanew Context.lone.session {} hchanged).trans (List.append_nil _)

end PlaybackRules
