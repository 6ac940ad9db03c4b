import PlaybackRules.Proofs.AtOnce
import PlaybackRules.Proofs.Independence
import PlaybackRules.Proofs.Uncounted

/-!
# What a pass accounts for

A lapse is a condition that fails closed in a group that is visited.  A pass over rules records two
kinds of things: its lapses, each with one log record and one count, and the results of the
applicable rules, each with its own (`Engine.view_passEvents`).  So each counter grows by exactly
what it is meant to count, and each lapse leaves exactly one record; with metrics switched off
nothing is counted, and nothing else changes (`Engine.evaluateRules_accounting`).
-/

namespace PlaybackRules

/-! ## Lapses -/

/-- A condition that failed closed when a rule was evaluated. -/
structure Lapse where
  rule : Rule
  condition : Condition
  closing : Closing

namespace Lapse

/-- What is logged of a lapse. -/
def entry (lapse : Lapse) : Entry :=
  lapse.closing.entry lapse.condition.field.text lapse.rule.id

/-- What happens when a condition lapses. -/
def events (settings : Settings) (lapse : Lapse) : List Event :=
  lapse.condition.failureEvents settings lapse.rule.id (.error lapse.closing)

end Lapse

variable (engine : Engine) (settings : Settings) (mode : Mode) (context : Context)

/-- The groups of a rule that are visited: none if the evaluation is stuck, else those up to and
including the first that is not empty and has no condition that is satisfied. -/
def Engine.visited (rule : Rule) : RuleConditions :=
  if engine.isStuck mode (rule.conditions.getD []) then []
  else (rule.conditions.getD []).reached fun group =>
    group.isEmpty || group.any (engine.registry.satisfies settings mode (context.withRule rule))

/-- The lapse of a condition, if it fails closed. -/
def Registry.lapse? (registry : Registry) (rule : Rule) (condition : Condition) : Option Lapse :=
  match registry.verdict settings mode (context.withRule rule) condition with
  | .ok _ => none
  | .error closing => some { rule, condition, closing }

/-- The lapses in the groups of a rule that are visited. -/
def Engine.lapses (rule : Rule) : List Lapse :=
  (engine.visited settings mode context rule).flatten.filterMap
    (engine.registry.lapse? settings mode context rule)

theorem Registry.failureEvents_eq_lapse (registry : Registry) (rule : Rule)
    (condition : Condition) :
    condition.failureEvents settings rule.id
        (registry.verdict settings mode (context.withRule rule) condition) =
      (registry.lapse? settings mode context rule condition).toList.flatMap
        (Lapse.events settings) := by
  unfold Registry.lapse?
  cases registry.verdict settings mode (context.withRule rule) condition with
  | ok evidence => rfl
  | error closing => exact (List.append_nil _).symm

/-! ## The events of a pass -/

theorem Engine.events_evaluateRule (rule : Rule) :
    (engine.evaluateRule (.ok settings) mode (context.withRule rule)).events =
      ((if engine.isStuck mode (rule.conditions.getD []) then [.logged (.suspended rule.id)]
        else []) ++
        (engine.visited settings mode context rule).flatMap
          (engine.groupEvents settings mode (context.withRule rule) rule.id)) ++
      (engine.resultFor settings mode context rule).recordEvents settings mode := by
  unfold Engine.visited Engine.resultFor
  cases hstuck : engine.isStuck mode (rule.conditions.getD []) with
  | true =>
      rw [engine.evaluateRule_stuck settings mode context rule hstuck]
      rfl
  | false =>
      rw [engine.evaluateRule_ok settings mode context rule hstuck, Engine.ruleEvents,
        Registry.groupHolds_eq]
      rfl

theorem Engine.events_passRule (rule : Rule) :
    (engine.passRule (.ok settings) mode context rule).events =
      (engine.evaluateRule (.ok settings) mode (context.withRule rule)).events := by
  unfold Engine.passRule
  simp only [engine.outcome_evaluateRule settings mode context rule]

/-- What happens in a pass. -/
def Engine.passEvents (rules : List Rule) (trace : TraceState) : List Event :=
  (engine.evaluateRules (.ok settings) mode context rules trace).events.map Stamped.event

theorem Engine.passEvents_eq (rules : List Rule) (trace : TraceState) :
    engine.passEvents settings mode context rules trace =
      (rules.filter (·.isApplicable context)).flatMap fun rule =>
        (engine.evaluateRule (.ok settings) mode (context.withRule rule)).events := by
  have hunstamped : engine.passEvents settings mode context rules trace =
      (engine.passRules (.ok settings) mode context rules).events :=
    engine.map_event_evaluateRules (.ok settings) mode context rules trace
  rw [hunstamped]
  unfold Engine.passRules
  induction rules.filter (·.isApplicable context) with
  | nil => rfl
  | cons rule rules ih =>
      rw [List.foldr_cons, List.flatMap_cons, ← ih, ← Engine.events_passRule]
      rfl

section View

variable {α : Type} {view : Event → Option α}
  (hview : ∀ event, event.isRecorded = false → view event = none)
  (hsuspended : ∀ ruleId, view (.logged (.suspended ruleId)) = none)
include hview hsuspended

/-- What is seen of the evaluation of a rule is what is seen of its lapses and of its result. -/
theorem Engine.view_evaluateRule (rule : Rule) :
    ((engine.evaluateRule (.ok settings) mode (context.withRule rule)).events.filterMap view).Perm
      ((engine.lapses settings mode context rule).flatMap
          (fun lapse => (lapse.events settings).filterMap view) ++
        ((engine.resultFor settings mode context rule).recordEvents settings mode).filterMap
          view) := by
  have hstuck : (if engine.isStuck mode (rule.conditions.getD []) then
      [Event.logged (.suspended rule.id)] else []).filterMap view = [] := by
    cases engine.isStuck mode (rule.conditions.getD []) <;> simp [hsuspended]
  have hlapses : (engine.lapses settings mode context rule).flatMap
      (fun lapse => (lapse.events settings).filterMap view) =
        (engine.visited settings mode context rule).flatMap fun group =>
          group.flatMap fun condition => (condition.failureEvents settings rule.id
            (engine.registry.verdict settings mode (context.withRule rule) condition)).filterMap
              view := by
    unfold Engine.lapses
    rw [List.filterMap_eq_flatMap_toList, List.flatMap_assoc, ← List.flatMap_id,
      List.flatMap_assoc]
    simp only [Registry.failureEvents_eq_lapse, List.filterMap_flatMap, id]
  rw [engine.events_evaluateRule, List.filterMap_append, List.filterMap_append, hstuck,
    List.nil_append, List.filterMap_flatMap, hlapses]
  refine List.Perm.append_right _ (List.Perm.flatMap_left _ fun group _ => ?_)
  exact engine.view_group settings mode (context.withRule rule) rule.id hview group

/-- What is seen of a pass is what is seen of the lapses and the results of the applicable rules. -/
theorem Engine.view_passEvents (rules : List Rule) (trace : TraceState) :
    ((engine.passEvents settings mode context rules trace).filterMap view).Perm
      (((rules.filter (·.isApplicable context)).flatMap
          (engine.lapses settings mode context)).flatMap
            (fun lapse => (lapse.events settings).filterMap view) ++
        ((rules.filter (·.isApplicable context)).map
          (engine.resultFor settings mode context)).flatMap
            fun result => (result.recordEvents settings mode).filterMap view) := by
  rw [engine.passEvents_eq, List.filterMap_flatMap, List.flatMap_assoc, List.flatMap_map]
  refine List.Perm.trans ?_ (List.flatMap_append_perm _ _ _).symm
  exact List.Perm.flatMap_left _ fun rule _ =>
    engine.view_evaluateRule settings mode context hview hsuspended rule

end View

/-! ## Views of a pass -/

/-- Does an entry name the field of a condition? -/
def Entry.namesField (entry : Entry) : Bool := (entry.fields.get? "field").isSome

/-- The entry that an event logs of a condition that failed, at the level of a warning or an
error. -/
def Event.lapseEntry? : Event → Option Entry
  | .logged entry => if entry.isFailure && entry.namesField then some entry else none
  | _ => none

theorem Event.mode?_of_not_recorded (event : Event) (h : event.isRecorded = false) :
    event.mode? = none := by
  cases event with
  | evaluated mode => exact absurd h Bool.noConfusion
  | _ => rfl

theorem Event.matchedRule?_of_not_recorded (event : Event) (h : event.isRecorded = false) :
    event.matchedRule? = none := by
  cases event with
  | matched ruleId => exact absurd h Bool.noConfusion
  | _ => rfl

theorem Event.lapseEntry?_of_not_failure (event : Event) (h : event.isFailure = false) :
    event.lapseEntry? = none := by
  cases event with
  | logged entry =>
      have hentry : entry.isFailure = false := h
      simp [Event.lapseEntry?, hentry]
  | _ => rfl

namespace Lapse

variable (lapse : Lapse)

/-- The entry of a lapse is a warning or an error, and names the field and the rule. -/
theorem entry_names :
    (lapse.entry.level = .warning ∨ lapse.entry.level = .error) ∧
      lapse.entry.fields.get? "field" = some (.str lapse.condition.field.text) ∧
      lapse.entry.fields.get? "rule_id" = some (.str lapse.rule.id) := by
  obtain ⟨rule, condition, closing⟩ := lapse
  cases closing <;> exact ⟨by simp [entry, Closing.entry, Entry.level], rfl, rfl⟩

theorem lapseEntry?_entry : Event.lapseEntry? (.logged lapse.entry) = some lapse.entry := by
  obtain ⟨rule, condition, closing⟩ := lapse
  cases closing <;> rfl

theorem modes_events : (lapse.events settings).filterMap Event.mode? = [] := by
  cases h : settings.metricsEnabled <;>
    simp [events, Condition.failureEvents, h, Event.mode?]

theorem matches_events : (lapse.events settings).filterMap Event.matchedRule? = [] := by
  cases h : settings.metricsEnabled <;>
    simp [events, Condition.failureEvents, h, Event.matchedRule?]

theorem reasons_events (h : settings.metricsEnabled = true) :
    (lapse.events settings).filterMap Event.reason? = [lapse.closing.reason] := by
  show (Event.logged lapse.entry :: if settings.metricsEnabled then _ else _).filterMap _ = _
  rw [if_pos h]
  rfl

theorem entries_events : (lapse.events settings).filterMap Event.lapseEntry? = [lapse.entry] := by
  have hcounted : (if settings.metricsEnabled then [Event.failed lapse.closing.reason]
      else []).filterMap Event.lapseEntry? = [] := by
    cases settings.metricsEnabled <;> rfl
  show (Event.logged lapse.entry :: _).filterMap Event.lapseEntry? = _
  rw [List.filterMap_cons_some lapse.lapseEntry?_entry, hcounted]

end Lapse

section Results

variable (h : settings.metricsEnabled = true) (result : EvaluationResult)
include h

theorem EvaluationResult.modes_recordEvents :
    (result.recordEvents settings mode).filterMap Event.mode? = [mode] := by
  unfold EvaluationResult.recordEvents
  rw [if_pos h]
  cases result.matched <;> rfl

theorem EvaluationResult.matches_recordEvents :
    (result.recordEvents settings mode).filterMap Event.matchedRule? =
      ([result].filter (·.matched)).map (·.ruleId) := by
  unfold EvaluationResult.recordEvents
  rw [if_pos h, List.filter_singleton]
  cases result.matched <;> rfl

end Results

/-! ## Counters and records of a pass -/

section Pass

variable (rules : List Rule) (trace : TraceState)

section Enabled

variable (h : settings.metricsEnabled = true)
include h

/-- Every applicable rule is counted once as evaluated. -/
theorem Engine.modes_passEvents :
    ((engine.passEvents settings mode context rules trace).filterMap Event.mode?).Perm
      (List.replicate (rules.filter (·.isApplicable context)).length mode) := by
  have hview := engine.view_passEvents settings mode context Event.mode?_of_not_recorded
    (fun _ => rfl) rules trace
  rw [List.flatMap_eq_nil_iff.2 fun lapse _ => lapse.modes_events settings,
    List.nil_append] at hview
  simp only [EvaluationResult.modes_recordEvents settings mode h] at hview
  rwa [← List.map_eq_flatMap, List.map_const', List.length_map] at hview

/-- Every result that is returned is counted once as a match. -/
theorem Engine.matches_passEvents :
    ((engine.passEvents settings mode context rules trace).filterMap Event.matchedRule?).Perm
      ((engine.evaluateRules (.ok settings) mode context rules trace).results.map (·.ruleId)) := by
  have hview := engine.view_passEvents settings mode context Event.matchedRule?_of_not_recorded
    (fun _ => rfl) rules trace
  rw [List.flatMap_eq_nil_iff.2 fun lapse _ => lapse.matches_events settings,
    List.nil_append] at hview
  simp only [EvaluationResult.matches_recordEvents settings mode h] at hview
  rwa [← List.map_flatMap, ← List.filter_flatMap, List.flatMap_singleton',
    ← engine.results_eq_filter settings mode context rules trace] at hview

/-- Every lapse is counted once, under its reason. -/
theorem Engine.reasons_passEvents :
    ((engine.passEvents settings mode context rules trace).filterMap Event.reason?).Perm
      (((rules.filter (·.isApplicable context)).flatMap
        (engine.lapses settings mode context)).map (·.closing.reason)) := by
  have hfailures := Event.reason?_of_not_failure
  have hview := engine.view_passEvents settings mode context (Event.view_of_not_recorded hfailures)
    (fun _ => rfl) rules trace
  have hresult := EvaluationResult.failures_recordEvents settings mode hfailures
  simp only [Lapse.reasons_events settings _ h, hresult] at hview
  rwa [← List.map_eq_flatMap, List.flatMap_eq_nil_iff.2 fun _ _ => rfl, List.append_nil] at hview

end Enabled

/-- Every lapse is logged once. -/
theorem Engine.entries_passEvents :
    ((engine.passEvents settings mode context rules trace).filterMap Event.lapseEntry?).Perm
      (((rules.filter (·.isApplicable context)).flatMap
        (engine.lapses settings mode context)).map Lapse.entry) := by
  have hfailures := Event.lapseEntry?_of_not_failure
  have hview := engine.view_passEvents settings mode context (Event.view_of_not_recorded hfailures)
    (fun _ => rfl) rules trace
  have hresult := EvaluationResult.failures_recordEvents settings mode hfailures
  simp only [Lapse.entries_events, hresult] at hview
  rwa [← List.map_eq_flatMap, List.flatMap_eq_nil_iff.2 fun _ _ => rfl, List.append_nil] at hview

end Pass

/-! ## The account of a pass -/

/-- What a pass logs, each entry with the trace identifier that it carries. -/
def TracedPass.log (pass : TracedPass) : List (Entry × Option TraceId) :=
  pass.events.filterMap fun stamped =>
    match stamped.event with
    | .logged entry => some (entry, stamped.trace)
    | _ => none

/-- The warnings and errors of a pass that name a field. -/
def TracedPass.lapseEntries (pass : TracedPass) : List Entry :=
  (pass.log.map Prod.fst).filter fun entry => entry.isFailure && entry.namesField

theorem TracedPass.lapseEntries_eq (pass : TracedPass) :
    pass.lapseEntries = (pass.events.map Stamped.event).filterMap Event.lapseEntry? := by
  unfold TracedPass.lapseEntries TracedPass.log
  rw [List.map_filterMap, List.filter_filterMap, List.filterMap_map]
  congr 1
  funext stamped
  obtain ⟨event, trace⟩ := stamped
  cases event with
  | logged entry =>
      show Option.filter _ (some entry) = _
      exact Option.filter_some
  | _ => rfl

theorem TracedPass.log_uncounted (pass : TracedPass) :
    TracedPass.log { pass with
      events := pass.events.filter fun stamped => !stamped.event.isCounted } = pass.log := by
  unfold TracedPass.log
  rw [List.filterMap_filter]
  congr 1
  funext stamped
  obtain ⟨event, trace⟩ := stamped
  cases event <;> rfl

/-- With metrics switched on, a pass counts every applicable rule once under its mode, every result
that it returns once under its rule, and every lapse once under its reason.  The warnings and errors
that name a field are those of the lapses, one for each, and name its field and its rule.  With
metrics switched off nothing is counted, and the results and all that is logged are the same. -/
theorem Engine.evaluateRules_accounting (rules : List Rule) (trace : TraceState) :
    let enabled : Settings := { settings with metricsEnabled := true }
    let disabled : Settings := { settings with metricsEnabled := false }
    let pass (settings : Settings) := engine.evaluateRules (.ok settings) mode context rules trace
    let counters (settings : Settings) (history : List Event) :=
      Metrics.ofEvents (history ++ (pass settings).events.map Stamped.event)
    let applicable := rules.filter fun rule => rule.isActive && decide (rule.serverId = none ∨
      rule.serverId = some "" ∨ rule.serverId = some context.server.id)
    let lapses := applicable.flatMap (engine.lapses settings mode context)
    (∀ history,
      (∀ mode', (counters enabled history).evaluated.get mode'.name =
        (Metrics.ofEvents history).evaluated.get mode'.name +
          if mode = mode' then applicable.length else 0) ∧
      (∀ ruleId, (counters enabled history).matched.get ruleId =
        (Metrics.ofEvents history).matched.get ruleId +
          ((pass enabled).results.map (·.ruleId)).count ruleId) ∧
      ∀ reason, (counters enabled history).failures.get reason.name =
        (Metrics.ofEvents history).failures.get reason.name +
          (lapses.map (·.closing.reason)).count reason) ∧
    (pass enabled).lapseEntries.Perm (lapses.map Lapse.entry) ∧
    (∀ lapse : Lapse, (lapse.entry.level = .warning ∨ lapse.entry.level = .error) ∧
      lapse.entry.fields.get? "field" = some (.str lapse.condition.field.text) ∧
      lapse.entry.fields.get? "rule_id" = some (.str lapse.rule.id)) ∧
    (∀ history, counters disabled history = Metrics.ofEvents history) ∧
    (pass disabled).results = (pass enabled).results ∧
    (pass disabled).log = (pass enabled).log := by
  intro enabled disabled pass counters applicable lapses
  have happlicable : rules.filter (·.isApplicable context) = applicable := by
    simp only [Rule.isApplicable_eq]
    rfl
  have hlapses : (rules.filter (·.isApplicable context)).flatMap
      (engine.lapses enabled mode context) = lapses := by
    rw [happlicable]
    rfl
  have hmetrics : enabled.metricsEnabled = true := rfl
  have hdisabled : pass disabled = { pass enabled with
      events := (pass enabled).events.filter fun stamped => !stamped.event.isCounted } :=
    engine.evaluateRules_withoutMetrics (.ok enabled) mode context rules trace
  refine ⟨fun history => ⟨fun mode' => ?_, fun ruleId => ?_, fun reason => ?_⟩, ?_,
    Lapse.entry_names, fun history => ?_, by rw [hdisabled], ?_⟩
  · have hmodes := engine.modes_passEvents enabled mode context rules trace hmetrics
    rw [happlicable] at hmodes
    rw [Metrics.get_evaluated, Metrics.get_evaluated, List.filterMap_append, List.count_append]
    congr 1
    refine (hmodes.count_eq mode').trans ?_
    rw [List.count_replicate]
    simp only [beq_iff_eq]
  · have hmatches := engine.matches_passEvents enabled mode context rules trace hmetrics
    rw [Metrics.get_matched, Metrics.get_matched, List.filterMap_append, List.count_append]
    congr 1
    exact hmatches.count_eq ruleId
  · have hreasons := engine.reasons_passEvents enabled mode context rules trace hmetrics
    rw [hlapses] at hreasons
    rw [Metrics.get_failures, Metrics.get_failures, List.filterMap_append, List.count_append]
    congr 1
    exact hreasons.count_eq reason
  · have hentries := engine.entries_passEvents enabled mode context rules trace
    rw [hlapses] at hentries
    rw [TracedPass.lapseEntries_eq]
    exact hentries
  · have hevents : (pass disabled).events.map Stamped.event =
        ((pass enabled).events.map Stamped.event).filter fun event => !event.isCounted := by
      rw [hdisabled, List.filter_map]
      rfl
    show Metrics.ofEvents (history ++ (pass disabled).events.map Stamped.event) = _
    rw [hevents, Metrics.ofEvents_append_uncounted]
  · rw [hdisabled]
    exact TracedPass.log_uncounted (pass enabled)

end PlaybackRules
