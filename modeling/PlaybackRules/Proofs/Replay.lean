import PlaybackRules.Proofs.Findings

/-!
# Evidence that can be replayed

Most fields report the very value that they compare with the threshold (`Field.shows_observe`).
The others round what they compare (distances, speeds and bit rates), compare ordinals of names
(resolutions), or do not compare at all (address ranges, and the transcoding of a named track).

The evidence of a condition is that of the finding of its field, whatever the settings and the mode
(`Engine.yields_evaluateGroup`).  So its outcome can be computed again from the evidence alone
(`Engine.replay_evidence`).
-/

namespace PlaybackRules

/-! ## What is compared and what is reported -/

/-- The fields that report the value that they compare, whatever the threshold. -/
def Field.plain : List Field := [
  concurrentStreams, uniqueIps, uniqueDevices, inactiveDays, isTranscodeDowngrade, userId,
  trustScore, accountAge, deviceType, clientName, platform, isLocalNetwork, country, serverId,
  libraryId, mediaType]

/-- Does a condition on a field report the value that it compares?  Transcoding does so unless the
threshold names a track. -/
def Condition.ReportsCompared (condition : Condition) (field : Field) : Prop :=
  field ∈ Field.plain ∨ field = .isTranscoding ∧ ∀ name, condition.threshold ≠ .str name

/-- Is the outcome of a finding the comparison of what it reports? -/
def Finding.Shows (finding : Finding) (condition : Condition) : Prop :=
  finding.matched = condition.holds finding.actual

/-- Is the outcome of a condition the comparison of the observation in its own evidence? -/
def ConditionEvidence.IsReplay (evidence : ConditionEvidence) : Prop :=
  evidence.matched = evidence.actual.compare evidence.operator evidence.threshold

theorem Finding.Shows.isReplay {finding : Finding} {condition : Condition}
    (h : finding.Shows condition) : (finding.evidence condition).IsReplay := h

variable {condition : Condition} {finding : Finding}

theorem ok_of_bind {ε α β : Type} {x : Except ε α} {f : α → Except ε β} {b : β}
    (h : x >>= f = .ok b) : ∃ a, x = .ok a ∧ f a = .ok b := by
  cases x with
  | error e => exact absurd h nofun
  | ok a => exact ⟨a, rfl, h⟩

namespace Observation

theorem shows_distinctInWindow {key : String} {name : Session → String}
    {window : Except Failure Binary64} {context : Context}
    (h : distinctInWindow key name window context condition = .ok finding) :
    finding.Shows condition := by
  obtain ⟨hours, -, h⟩ := ok_of_bind h
  obtain ⟨sessions, -, h⟩ := ok_of_bind h
  cases h
  rfl

theorem shows_isLocalNetwork {context : Context}
    (h : isLocalNetwork context condition = .ok finding) : finding.Shows condition := by
  obtain ⟨answer, -, h⟩ := ok_of_bind h
  cases h
  rfl

theorem shows_isTranscodeDowngrade (context : Context) :
    (isTranscodeDowngrade context condition).Shows condition := by
  unfold isTranscodeDowngrade
  by_cases h : context.session.isTranscode = true
  · simp only [if_pos h]
    rfl
  · simp only [if_neg h]
    rfl

theorem shows_isTranscoding (context : Context) (h : ∀ name, condition.threshold ≠ .str name) :
    (isTranscoding context condition).Shows condition := by
  unfold isTranscoding
  split
  · exact absurd ‹_› (h _)
  · rfl

end Observation

/-- A plain field, and transcoding as a flag, find what they compare. -/
theorem Field.shows_observe {field : Field} {window : Except Failure Binary64} {context : Context}
    (hfield : condition.ReportsCompared field)
    (h : field.observe window context condition = .ok finding) : finding.Shows condition := by
  rcases hfield with hplain | ⟨rfl, htext⟩
  · cases field with
    | concurrentStreams => cases h; rfl
    | uniqueIps => exact Observation.shows_distinctInWindow h
    | uniqueDevices => exact Observation.shows_distinctInWindow h
    | inactiveDays => cases h; rfl
    | isTranscodeDowngrade => cases h; exact Observation.shows_isTranscodeDowngrade context
    | isLocalNetwork => exact Observation.shows_isLocalNetwork h
    | userId | trustScore | accountAge | deviceType | clientName | platform | country | serverId
    | libraryId | mediaType => cases h; rfl
    | _ => exact absurd hplain (by decide)
  · cases h
    exact Observation.shows_isTranscoding context htext

/-! ## The evidence of built-in observations -/

namespace Progress

/-- Conditions that are settled, each with evidence. -/
def found (evidence : List ConditionEvidence) : List Progress :=
  evidence.map fun piece => settled (.ok piece)

theorem isSettled_found (evidence : List ConditionEvidence) :
    ∀ p ∈ found evidence, p.isSettled = true := by
  intro p hp
  obtain ⟨piece, -, rfl⟩ := List.mem_map.1 hp
  rfl

theorem evidence_found (evidence : List ConditionEvidence) :
    Journaled.forEach Progress.evidence (found evidence) = .done evidence := by
  have hpiece : ∀ piece ∈ evidence, Progress.evidence (settled (.ok piece)) = .done (id piece) :=
    fun _ _ => rfl
  rw [found, Journaled.forEach_map, Journaled.forEach_done hpiece, List.map_id]

theorem discard_found (config : Configuration) (ruleId : String)
    (evidence : List ConditionEvidence) :
    Journaled.forEach (discard config ruleId) (found evidence) = .done evidence := by
  rw [discard_of_settled ruleId config (isSettled_found evidence), evidence_found]

theorem await_found (config : Configuration) (ruleId : String)
    (evidence : List ConditionEvidence) :
    await config ruleId (found evidence) = .done evidence := by
  rw [await_of_settled ruleId config (isSettled_found evidence), evidence_found]

theorem exists_found {R : Condition → ConditionEvidence → Prop} {group : ConditionGroup}
    {progress : List Progress}
    (h : List.Forall₂ (fun condition p => ∃ piece, R condition piece ∧ p = settled (.ok piece))
      group progress) :
    ∃ evidence, List.Forall₂ R group evidence ∧ progress = found evidence := by
  induction h with
  | nil => exact ⟨[], .nil, rfl⟩
  | @cons condition p group progress hp _ ih =>
      obtain ⟨piece, hpiece, rfl⟩ := hp
      obtain ⟨evidence, hevidence, rfl⟩ := ih
      exact ⟨piece :: evidence, .cons hpiece hevidence, rfl⟩

end Progress

theorem Condition.mem_close (config : Configuration) (ruleId : String) (condition : Condition)
    (closing : Closing) : .logged (closing.entry condition.field.text ruleId) ∈
      (condition.close config ruleId closing).events :=
  Journaled.mem_bind (List.mem_singleton_self _) _

theorem Condition.conclude_toReport (config : Configuration) (ruleId : String)
    (condition : Condition) (finding : Finding) :
    condition.conclude config ruleId (.report finding.toReport) =
      .done (finding.evidence condition) := by
  simp only [Condition.conclude, Outcome.judge, Finding.evidence?_toReport]

/-- The evidence of a condition is that of what its field finds, if it finds something. -/
def Condition.FoundIn (config : Configuration) (context : Context) (condition : Condition)
    (evidence : ConditionEvidence) : Prop :=
  ∀ field finding, condition.field.field? = some field →
    field.observe config.defaultWindow context condition = .ok finding →
      evidence = finding.evidence condition

/-- The evidence of groups relates to their conditions, one by one. -/
def RuleConditions.Evidenced (R : Condition → ConditionEvidence → Prop) (groups : RuleConditions)
    (evidence : Option (List GroupEvidence)) : Prop :=
  ∀ pieces, evidence = some pieces →
    List.Forall₂ (fun group piece => List.Forall₂ R group piece.conditions) groups pieces

theorem RuleConditions.evidenced_none {R : Condition → ConditionEvidence → Prop}
    (groups : RuleConditions) : groups.Evidenced R none := nofun

theorem RuleConditions.Evidenced.mono {R Q : Condition → ConditionEvidence → Prop}
    {groups : RuleConditions} {evidence : Option (List GroupEvidence)}
    (h : groups.Evidenced R evidence)
    (hRQ : ∀ condition piece, R condition piece → Q condition piece) :
    groups.Evidenced Q evidence :=
  fun pieces hpieces => (h pieces hpieces).imp fun _ _ hgroup => hgroup.imp hRQ

namespace Engine

variable (suspends : Bool) (config : Configuration) (mode : Mode) (context : Context)
  (ruleId : String)

/-- A condition with a known field is concluded as soon as it is called. -/
theorem start_builtIn {condition : Condition} {field : Field}
    (hfield : condition.field.field? = some field) :
    ({ suspends } : Engine).start config context ruleId condition = (do
      Journaled.emit (.invoked condition :: (field.asks context).map .asked)
      let evidence ← condition.conclude config ruleId
        (match field.observe config.defaultWindow context condition with
          | .ok finding => .report finding.toReport
          | .error failure => .failed failure)
      return .settled (.ok evidence)) := by
  unfold start
  rw [hfield]
  rfl

theorem yields_start (condition : Condition) :
    (({ suspends } : Engine).start config context ruleId condition).Yields fun progress =>
      ∃ evidence, condition.FoundIn config context evidence ∧
        progress = .settled (.ok evidence) := by
  cases hfield : condition.field.field? with
  | none =>
      unfold start
      rw [hfield]
      refine (Journaled.yields_of_any _).bind fun evidence _ => Journaled.yields_done ?_
      exact ⟨evidence, fun field _ hsome => absurd (hfield.symm.trans hsome) nofun, rfl⟩
  | some field =>
      rw [start_builtIn suspends config context ruleId hfield]
      refine (Journaled.yields_of_any _).bind fun _ _ => ?_
      have hother : ∀ other, condition.field.field? = some other → other = field :=
        fun other h => Option.some.inj (h.symm.trans hfield)
      cases hobserve : field.observe config.defaultWindow context condition with
      | error failure =>
          refine (Journaled.yields_of_any _).bind fun evidence _ => Journaled.yields_done ?_
          refine ⟨evidence, fun other finding h hfound => ?_, rfl⟩
          rw [hother other h, hobserve] at hfound
          exact absurd hfound nofun
      | ok finding =>
          simp only [Condition.conclude_toReport]
          refine Journaled.yields_done ⟨_, fun other finding' h hfound => ?_, rfl⟩
          rw [hother other h, hobserve] at hfound
          rw [Except.ok.inj hfound]

/-- The evidence of a group is what the fields of its conditions find. -/
theorem yields_evaluateGroup (group : ConditionGroup) :
    (({ suspends } : Engine).evaluateGroup config mode context ruleId group).Yields
      (List.Forall₂ (Condition.FoundIn config context) group) := by
  have hstart := Journaled.yields_forEach fun condition (_ : condition ∈ group) =>
    yields_start suspends config context ruleId condition
  unfold evaluateGroup
  refine hstart.bind fun progress hprogress => ?_
  obtain ⟨evidence, hfound, rfl⟩ := Progress.exists_found hprogress
  cases mode with
  | sync =>
      simp only [Progress.discard_found]
      exact Journaled.yields_done hfound
  | async =>
      simp only [Progress.await_found]
      exact Journaled.yields_done hfound

theorem yields_evaluateGroups : ∀ (index : Nat) (groups : RuleConditions),
    (({ suspends } : Engine).evaluateGroups config mode context ruleId index groups).Yields
      (groups.Evidenced (Condition.FoundIn config context))
  | _, [] => Journaled.yields_done fun _ hpieces => Option.some.inj hpieces ▸ .nil
  | index, group :: groups => by
      have hgroup := yields_evaluateGroup suspends config mode context ruleId group
      unfold evaluateGroups
      refine hgroup.bind fun found hfound => ?_
      by_cases hholds : groupHolds found = true
      · rw [if_pos hholds]
        refine (yields_evaluateGroups (index + 1) groups).bind fun rest hrest => ?_
        refine Journaled.yields_done fun pieces hpieces => ?_
        obtain ⟨others, hothers, rfl⟩ := Option.map_eq_some_iff.1 hpieces
        exact .cons hfound (hrest others hothers)
      · rw [if_neg hholds]
        exact Journaled.yields_done (RuleConditions.evidenced_none _)

theorem yields_resultOf (rule : Rule) :
    (({ suspends } : Engine).resultOf config mode context rule).Yields fun result =>
      (rule.conditions.getD []).Evidenced (Condition.FoundIn config context) result.evidence := by
  have hunmatched : (Journaled.done (EvaluationResult.unmatched rule)).Yields fun result =>
      (rule.conditions.getD []).Evidenced (Condition.FoundIn config context) result.evidence :=
    Journaled.yields_done (RuleConditions.evidenced_none _)
  unfold resultOf
  cases hconditions : rule.conditions with
  | none => rwa [hconditions] at hunmatched
  | some groups =>
      rw [hconditions] at hunmatched
      by_cases hstuck : ({ suspends } : Engine).isStuck mode groups = true
      · simp only [if_pos hstuck]
        exact (Journaled.yields_of_any _).bind fun _ _ => hunmatched
      · have hgroups := yields_evaluateGroups suspends config mode context rule.id 0 groups
        simp only [if_neg hstuck]
        refine hgroups.bind fun found hfound => ?_
        cases found with
        | none => exact hunmatched
        | some pieces => exact Journaled.yields_done hfound

/-- The evidence in the result of a rule is what the fields of its conditions find. -/
theorem yields_evaluateRule (rule : Rule) :
    (({ suspends } : Engine).evaluateRule config mode (context.withRule rule)).Yields fun result =>
      (rule.conditions.getD []).Evidenced (Condition.FoundIn config (context.withRule rule))
        result.evidence :=
  (yields_resultOf suspends config mode (context.withRule rule) rule).bind fun _ hresult =>
    (Journaled.yields_of_any _).bind fun _ _ => Journaled.yields_done hresult

/-! ## Replay -/

/-- Is it recorded that a condition fails closed, when its evaluator is called? -/
def FailsClosed (engine : Engine) (condition : Condition) : Prop :=
  ∃ closing : Closing, .logged (closing.entry condition.field.text ruleId) ∈
    (engine.start config context ruleId condition).events

variable {config context ruleId suspends}

theorem exists_finding {condition : Condition} {field : Field}
    (hfield : condition.field.field? = some field)
    (h : ¬({ suspends } : Engine).FailsClosed config context ruleId condition) :
    ∃ finding, field.observe config.defaultWindow context condition = .ok finding := by
  cases hobserve : field.observe config.defaultWindow context condition with
  | ok finding => exact ⟨finding, rfl⟩
  | error failure =>
      refine absurd ⟨.failed failure, ?_⟩ h
      rw [start_builtIn suspends config context ruleId hfield, hobserve]
      exact List.mem_append_right _ (Journaled.mem_bind (condition.mem_close config ruleId _) _)

variable (config context ruleId suspends)

/-- The outcome of a condition can be computed again from its evidence, if its field reports what it
compares and the condition does not fail closed. -/
def Replays (engine : Engine) (condition : Condition) (evidence : ConditionEvidence) : Prop :=
  ∀ field, condition.field.field? = some field → condition.ReportsCompared field →
    ¬engine.FailsClosed config context ruleId condition → evidence.IsReplay

theorem replays_of_foundIn {condition : Condition} {evidence : ConditionEvidence}
    (h : condition.FoundIn config context evidence) :
    ({ suspends } : Engine).Replays config context ruleId condition evidence := by
  intro field hfield hcompared hclosed
  obtain ⟨finding, hfinding⟩ := exists_finding hfield hclosed
  rw [h field finding hfield hfinding]
  exact (Field.shows_observe hcompared hfinding).isReplay

/-- Every piece of evidence that is produced can be replayed, in a group and in a result. -/
theorem replay_evidence :
    (∀ (ruleId : String) (group : ConditionGroup) (found : List ConditionEvidence),
      (({ suspends } : Engine).evaluateGroup config mode context ruleId group).outcome =
        .ok found →
      List.Forall₂ (({ suspends } : Engine).Replays config context ruleId) group found) ∧
    ∀ (rule : Rule) (result : EvaluationResult),
      (({ suspends } : Engine).evaluateRule config mode (context.withRule rule)).outcome =
        .ok result →
      (rule.conditions.getD []).Evidenced
        (({ suspends } : Engine).Replays config (context.withRule rule) rule.id)
        result.evidence := by
  refine ⟨fun ruleId group found hfound => ?_, fun rule result hresult => ?_⟩
  · have hgroup := yields_evaluateGroup suspends config mode context ruleId group found hfound
    exact hgroup.imp fun _ _ => replays_of_foundIn suspends config context ruleId
  · have hrule := yields_evaluateRule suspends config mode context rule result hresult
    exact hrule.mono fun _ _ => replays_of_foundIn suspends config _ rule.id

/-- A session that is not transcoded, in a group and in a rule that ask for just that. -/
theorem replay_evidence_direct :
    let condition : Condition :=
      { field := .known .isTranscoding, operator := .neq, value := .scalar (.bool true) }
    let rule : Rule := { id := "rule", name := "Rule", conditions := some [[condition]] }
    ∃ evidence : ConditionEvidence, evidence.matched = true ∧ evidence.IsReplay ∧
      (({} : Engine).evaluateGroup (.ok {}) .async (Context.lone.withRule rule) rule.id
        [condition]).outcome = .ok [evidence] ∧
      ∃ result, (({} : Engine).evaluateRule (.ok {}) .sync (Context.lone.withRule rule)).outcome =
          .ok result ∧
        (rule.conditions.getD []).Evidenced
          (({} : Engine).Replays (.ok {}) (Context.lone.withRule rule) rule.id)
          result.evidence := by
  intro condition rule
  have hgroup := (replay_evidence false (.ok {}) .async (Context.lone.withRule rule)).1 rule.id
    [condition] [_] rfl
  have hrule := (replay_evidence false (.ok {}) .sync Context.lone).2 rule _ rfl
  have hopen : ¬({} : Engine).FailsClosed (.ok {}) (Context.lone.withRule rule) rule.id
      condition := fun ⟨_, hmem⟩ => absurd (List.mem_singleton.1 hmem) nofun
  obtain _ | ⟨hreplays, -⟩ := hgroup
  exact ⟨_, rfl, hreplays .isTranscoding rfl (Or.inr ⟨rfl, nofun⟩) hopen, rfl, _, rfl, hrule⟩

end Engine

end PlaybackRules
