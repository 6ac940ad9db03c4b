import PlaybackRules.Proofs.Accounting
import PlaybackRules.Proofs.Suspension

/-!
# Pending answers without waiting

Without waiting, the pending answers of a group are dismissed as soon as all evaluators have been
called.  Nothing is worked out: no body begins, and no promise arrives.  All that is done about the
answers is that every promise is called off (`Engine.settling_evaluateRule`).  Each condition whose
answer is dismissed fails closed and is counted as pending (`Engine.pending_evaluateRule`); its
siblings have the evidence that they have with waiting (`Registry.evidence_sync`).
`Engine.evaluateRule_dismisses` puts these together, with the result of groups that give up the turn
by themselves.
-/

namespace PlaybackRules

/-! ## What is done about answers -/

/-- Is something done about a pending answer, or does it arrive? -/
def Event.isSettling : Event → Bool
  | .began _ => true
  | .ended _ => true
  | .cancelled _ => true
  | .fulfilled _ => true
  | _ => false

/-- Does the evaluator of a condition give a promise that is still to arrive? -/
def Registry.promises (registry : Registry) (settings : Settings) (context : Context)
    (condition : Condition) : Bool :=
  (registry.call? settings context condition).any fun call =>
    match call.answer with
    | .later (.promise ..) => true
    | _ => false

section Settling

variable (settings : Settings) (mode : Mode) (context : Context) (ruleId : String)

theorem Condition.settling_failureEvents (condition : Condition)
    (verdict : Except Closing ConditionEvidence) :
    (condition.failureEvents settings ruleId verdict).filter Event.isSettling = [] := by
  cases verdict with
  | ok evidence => rfl
  | error closing =>
      by_cases h : settings.metricsEnabled = true <;>
        simp [Condition.failureEvents, Event.isSettling, h]

theorem EvaluationResult.settling_recordEvents (result : EvaluationResult) :
    (result.recordEvents settings mode).filter Event.isSettling = [] := by
  unfold EvaluationResult.recordEvents
  by_cases hmetrics : settings.metricsEnabled = true
  · cases hmatched : result.matched <;> simp [hmetrics, Event.isSettling]
  · simp [hmetrics, Event.isSettling]

theorem Registry.settling_startEvents (registry : Registry) (condition : Condition) :
    (registry.startEvents settings context ruleId condition).filter Event.isSettling = [] := by
  unfold Registry.startEvents
  cases registry.call? settings context condition with
  | none => exact condition.settling_failureEvents settings ruleId _
  | some call =>
      obtain ⟨asked, answer⟩ := call
      cases answer <;> simp [Event.isSettling, Condition.settling_failureEvents]

/-- A promise is called off, and a task is just dropped. -/
theorem Registry.settling_settleEvents (registry : Registry) (condition : Condition) :
    (registry.settleEvents settings .sync context ruleId condition).filter Event.isSettling =
      ([condition].filter (registry.promises settings context)).map .cancelled := by
  unfold Registry.settleEvents
  rw [List.filter_singleton, Registry.promises]
  cases registry.call? settings context condition with
  | none => rfl
  | some call =>
      obtain ⟨asked, answer⟩ := call
      cases answer with
      | now outcome => rfl
      | later pending =>
          cases pending <;> simp [List.filter_cons, Pending.dismissal, Event.isSettling,
            Condition.settling_failureEvents]

/-- Without waiting, the answers are settled in the order of the conditions. -/
theorem Engine.groupEvents_sync (engine : Engine) (group : ConditionGroup) :
    engine.groupEvents settings .sync context ruleId group =
      group.flatMap (engine.registry.startEvents settings context ruleId) ++
        group.flatMap (engine.registry.settleEvents settings .sync context ruleId) := by
  have hstart : Journaled.forEach (engine.start (.ok settings) context ruleId) group = _ :=
    Journaled.forEach_eq fun condition _ => engine.start_ok settings ruleId context condition
  unfold Engine.groupEvents Engine.evaluateGroup
  rw [hstart, Journaled.ok_bind]
  simp only [Journaled.forEach_map]
  rw [Journaled.forEach_eq fun condition _ =>
    engine.registry.discard_started settings ruleId context condition]

theorem Engine.settling_groupEvents (engine : Engine) (group : ConditionGroup) :
    (engine.groupEvents settings .sync context ruleId group).filter Event.isSettling =
      (group.filter (engine.registry.promises settings context)).map .cancelled := by
  rw [engine.groupEvents_sync, List.filter_append, List.filter_flatMap, List.filter_flatMap]
  simp only [Registry.settling_startEvents, Registry.settling_settleEvents]
  rw [List.flatMap_eq_nil_iff.2 fun _ _ => rfl, List.nil_append, ← List.map_flatMap,
    ← List.filter_flatMap, List.flatMap_singleton']

/-- All that is done about pending answers is that the promises in the groups that are visited are
called off, in order. -/
theorem Engine.settling_evaluateRule (engine : Engine) (rule : Rule) :
    (engine.evaluateRule (.ok settings) .sync (context.withRule rule)).events.filter
        Event.isSettling =
      ((engine.visited settings .sync context rule).flatten.filter
        (engine.registry.promises settings (context.withRule rule))).map .cancelled := by
  have hstuck : (if engine.isStuck .sync (rule.conditions.getD []) then
      [Event.logged (.suspended rule.id)] else []).filter Event.isSettling = [] := by
    cases engine.isStuck .sync (rule.conditions.getD []) <;> rfl
  rw [engine.events_evaluateRule, List.filter_append, List.filter_append, hstuck,
    List.nil_append, EvaluationResult.settling_recordEvents, List.append_nil, List.filter_flatMap]
  simp only [Engine.settling_groupEvents]
  rw [List.filter_flatten, List.map_flatten, List.flatMap_def, List.map_map]
  rfl

end Settling

/-! ## Dismissed conditions -/

section Dismissed

variable (registry : Registry) (settings : Settings) (context : Context)

theorem Outcome.reason_judge (condition : Condition) (outcome : Outcome) (closing : Closing)
    (h : outcome.judge condition = .error closing) : closing.reason = .error := by
  cases outcome with
  | report r =>
      simp only [Outcome.judge] at h
      cases hevidence : r.evidence? condition with
      | none =>
          rw [hevidence] at h
          cases h
          rfl
      | some evidence =>
          rw [hevidence] at h
          cases h
  | other value => cases h; rfl
  | failed failure => cases h; rfl

/-- Without waiting, a condition is pending exactly if there is something to wait for. -/
theorem Registry.pending_lapse? (rule : Rule) (condition : Condition) :
    ((registry.lapse? settings .sync context rule condition).map (·.closing.reason) ==
        some .pending) = registry.awaits settings (context.withRule rule) condition := by
  unfold Registry.lapse? Registry.verdict Registry.awaits
  cases registry.call? settings (context.withRule rule) condition with
  | none => rfl
  | some call =>
      obtain ⟨asked, answer⟩ := call
      cases answer with
      | later pending => rfl
      | now outcome =>
          simp only [Call.verdict, Answer.outcome?]
          cases hjudge : outcome.judge condition with
          | ok evidence => rfl
          | error closing => simp [outcome.reason_judge condition closing hjudge]

/-- Every condition of the groups that are visited whose answer is pending is counted once. -/
theorem Engine.pending_evaluateRule (engine : Engine) (rule : Rule)
    (h : settings.metricsEnabled = true) :
    ((engine.evaluateRule (.ok settings) .sync (context.withRule rule)).events.filterMap
        Event.reason?).count .pending =
      ((engine.visited settings .sync context rule).flatten.filter
        (engine.registry.awaits settings (context.withRule rule))).length := by
  have hfailures := Event.reason?_of_not_failure
  have hview := engine.view_evaluateRule settings .sync context
    (Event.view_of_not_recorded hfailures) (fun _ => rfl) rule
  rw [EvaluationResult.failures_recordEvents settings .sync hfailures, List.append_nil] at hview
  simp only [Lapse.reasons_events settings _ h] at hview
  rw [hview.count_eq, ← List.map_eq_flatMap, Engine.lapses, List.map_filterMap,
    List.count_filterMap, ← List.countP_eq_length_filter]
  simp only [Registry.pending_lapse?]

/-- Without waiting, a condition with a pending answer fails closed; any other has the evidence that
it has with waiting. -/
theorem Registry.evidence_sync (condition : Condition) :
    registry.evidence settings .sync context condition =
      if registry.awaits settings context condition then condition.closed
      else registry.evidence settings .async context condition := by
  cases h : registry.awaits settings context condition with
  | true => exact registry.evidence_of_awaits settings context condition h
  | false => exact (registry.evidence_of_not_awaits settings context condition h).symm

end Dismissed

/-! ## Rules -/

/-- The condition whose promise is called off in an event, if one is. -/
def Event.cancelled? : Event → Option Condition
  | .cancelled condition => some condition
  | _ => none

theorem Event.filterMap_cancelled? {events : List Event} {conditions : List Condition}
    (h : events.filter isSettling = conditions.map .cancelled) :
    events.filterMap cancelled? = conditions := by
  have hsettling : (events.filter isSettling).filterMap cancelled? =
      events.filterMap cancelled? := by
    rw [List.filterMap_filter]
    congr 1
    funext event
    cases event <;> rfl
  rw [← hsettling, h, List.filterMap_map]
  exact List.filterMap_some

theorem Event.not_mem_of_isSettling {events : List Event} {conditions : List Condition}
    (h : events.filter isSettling = conditions.map .cancelled) {event : Event}
    (hevent : event.isSettling = true) (hne : event.cancelled? = none) : event ∉ events := by
  intro hmem
  have hfilter : event ∈ events.filter isSettling := List.mem_filter.2 ⟨hmem, hevent⟩
  rw [h] at hfilter
  obtain ⟨condition, -, rfl⟩ := List.mem_map.1 hfilter
  exact absurd hne nofun

theorem Engine.visited_of_not_stuck (engine : Engine) {settings : Settings} {mode : Mode}
    {context : Context} {rule : Rule} (h : engine.isStuck mode (rule.conditions.getD []) = false) :
    engine.visited settings mode context rule = (rule.conditions.getD []).reached
      (engine.registry.groupHolds settings mode (context.withRule rule)) := by
  rw [Engine.visited, if_neg (ne_true_of_eq_false h), Registry.groupHolds_eq]

/-- The evidence of a group in which pending answers are dismissed. -/
theorem Registry.forall₂_evidence_sync (registry : Registry) (settings : Settings)
    (context : Context) (group : ConditionGroup) :
    List.Forall₂ (fun condition piece =>
      if registry.awaits settings context condition then
        piece.matched = false ∧ piece.actual = .null
      else piece = registry.evidence settings .async context condition)
      group (group.map (registry.evidence settings .sync context)) := by
  refine List.forall₂_map_right_iff.2 (List.forall₂_same.2 fun condition _ => ?_)
  rw [registry.evidence_sync]
  cases registry.awaits settings context condition with
  | true => exact ⟨rfl, rfl⟩
  | false => rfl

/-- Without waiting, a rule is evaluated within one turn, which brings its result.  No pending
answer is worked out or arrives, and the promises in the groups that are visited are called off, in
order.  In each of these groups all evaluators are called.  A condition with a pending answer has
the evidence of a failure, and is counted as pending once if metrics are switched on; any other has
the evidence that it has with waiting.

If groups are evaluated in a way of their own, by which one of them gives up the turn, the rule does
not match; and without groups it matches as ever. -/
theorem Engine.evaluateRule_dismisses (registry : Registry) (settings : Settings)
    (context : Context) (rule : Rule) :
    let engine : Engine := { registry }
    let current := context.withRule rule
    let run := engine.evaluateRule (.ok settings) .sync current
    let core := rule.core (engine.groupCore (.ok settings) .sync current rule.id)
    let visited := engine.visited settings .sync context rule
    let awaits := registry.awaits settings current
    (core.suspends = false ∧ core.once.outcome = run.outcome ∧
      run = rule.evaluateAtOnce (.ok settings) core ∧ ∃ result, run.outcome = .ok result) ∧
    (∀ condition, .began condition ∉ run.events ∧ .ended condition ∉ run.events ∧
      .fulfilled condition ∉ run.events) ∧
    run.events.filterMap Event.cancelled? =
      visited.flatten.filter (registry.promises settings current) ∧
    (run.events.filterMap Event.invoked? = visited.flatten.filter registry.covers ∧
      ∀ group ∈ visited, ∃ found,
        (engine.evaluateGroup (.ok settings) .sync current rule.id group).outcome = .ok found ∧
        List.Forall₂ (fun condition piece =>
          if awaits condition then piece.matched = false ∧ piece.actual = .null
          else piece = registry.evidence settings .async current condition) group found) ∧
    (settings.metricsEnabled = true → ∀ history,
      (Metrics.ofEvents (history ++ run.events)).failures.get Reason.pending.name =
        (Metrics.ofEvents history).failures.get Reason.pending.name +
          (visited.flatten.filter awaits).length) ∧
    ∀ evaluate : GroupEvaluation,
      let driven := rule.evaluateAtOnce (.ok settings) (rule.core evaluate)
      (∀ groups, rule.conditions = some groups →
        (∀ group ∈ groups, (evaluate group).fails = false) →
        (∃ group ∈ groups, (evaluate group).suspends = true) →
          driven.outcome = .ok (.unmatched rule)) ∧
      (rule.conditions = some [] →
        driven.outcome = .ok (.ofEvidence rule []) ∧ driven.outcome = run.outcome) := by
  intro engine current run core visited awaits
  have hfree : engine.isStuck .sync (rule.conditions.getD []) = false := by simp [engine, isStuck]
  have hcore : core.suspends = false := engine.suspends_core (.ok settings) current rule hfree
  have honce : core.once = engine.resultOf (.ok settings) .sync current rule :=
    engine.once_core (.ok settings) current rule hfree
  have hdriven : run = rule.evaluateAtOnce (.ok settings) core :=
    engine.evaluateRule_sync (.ok settings) context rule
  have hresult : run.outcome = .ok (engine.resultFor settings .sync context rule) :=
    engine.outcome_evaluateRule settings .sync context rule
  have hsettling : run.events.filter Event.isSettling = _ :=
    engine.settling_evaluateRule settings context rule
  have hnone {event : Event} : event.isSettling = true → event.cancelled? = none →
      event ∉ run.events := Event.not_mem_of_isSettling hsettling
  refine ⟨⟨hcore, ?_, hdriven, _, hresult⟩,
    fun condition => ⟨hnone rfl rfl, hnone rfl rfl, hnone rfl rfl⟩,
    Event.filterMap_cancelled? hsettling,
    ⟨?_, fun group _ => ⟨_, congrArg Journaled.outcome
      (engine.evaluateGroup_eq settings .sync current rule.id group),
      registry.forall₂_evidence_sync settings current group⟩⟩,
    fun hmetrics history => ?_,
    fun evaluate => ⟨fun groups => Rule.outcome_evaluateAtOnce_of_suspends settings,
      fun hgroups => ⟨Rule.outcome_evaluateAtOnce_nil settings hgroups, ?_⟩⟩⟩
  · have hne := engine.outcome_resultOf_ne (.ok settings) context rule .sync
    rw [hdriven, Rule.outcome_evaluateAtOnce, honce, rule.orUnmatched_eq hne]
  · have hrun : run = _ := engine.evaluateRule_ok settings .sync context rule hfree
    have hvisited : visited = _ := engine.visited_of_not_stuck hfree
    rw [hvisited, hrun]
    exact engine.invoked_ruleEvents settings .sync context rule
  · have hpending := engine.pending_evaluateRule settings context rule hmetrics
    rw [Metrics.get_failures, Metrics.get_failures, List.filterMap_append, List.count_append]
    exact congrArg _ hpending
  · rw [hdriven, Rule.outcome_evaluateAtOnce_nil settings hgroups,
      Rule.outcome_evaluateAtOnce_nil settings hgroups]

/-- An answer at once, a task and a promise in one group, and a second task in the next, where the
evaluation ends. -/
theorem Engine.evaluateRule_dismisses_mixed :
    let seen : Outcome := .report { matched := .bool true, actual := .str "seen" }
    let registry : Registry := fun field => some fun _ _ _ =>
      { answer := match field with
          | .country => .now seen
          | .platform => .later (.promise 1 seen)
          | _ => .later (.task 2 seen) }
    let condition (field : Field) : Condition := { field := .known field, operator := .eq }
    let groups : RuleConditions := [
      [condition .country, condition .mediaType, condition .platform],
      [condition .mediaType], [condition .platform]]
    let rule : Rule := { id := "rule", name := "Rule", conditions := some groups }
    let vacuous : Rule := { rule with conditions := some [] }
    let run := ({ registry } : Engine).evaluateRule (.ok {}) .sync (Context.lone.withRule rule)
    let suspending : GroupEvaluation := fun _ => .suspended [] (return (true, []))
    run.events.filterMap Event.cancelled? = [condition .platform] ∧
      (Metrics.ofEvents ([] ++ run.events)).failures.get Reason.pending.name = 0 + 3 ∧
      (rule.evaluateAtOnce (.ok {}) (rule.core suspending)).outcome = .ok (.unmatched rule) ∧
      (vacuous.evaluateAtOnce (.ok {}) (vacuous.core suspending)).outcome =
        .ok (.ofEvidence vacuous []) := by
  intro seen registry condition groups rule vacuous run suspending
  obtain ⟨-, -, hcancelled, -, hpending, hdriven⟩ :=
    evaluateRule_dismisses registry {} Context.lone rule
  obtain ⟨-, -, -, -, -, hvacuous⟩ := evaluateRule_dismisses registry {} Context.lone vacuous
  exact ⟨hcancelled, hpending rfl [],
    (hdriven suspending).1 groups rfl (fun _ _ => rfl) ⟨_, List.mem_cons_self .., rfl⟩,
    ((hvacuous suspending).2 rfl).1⟩

/-- With metrics switched off, a condition with a pending answer is dismissed uncounted. -/
theorem Engine.pending_uncounted :
    let settings : Settings := { metricsEnabled := false }
    let registry : Registry := fun _ => some fun _ _ _ =>
      { answer := .later (.task 1 (.report { matched := .bool true, actual := .str "movie" })) }
    let condition : Condition :=
      { field := .known .mediaType, operator := .eq, value := .scalar (.str "movie") }
    let rule : Rule := { id := "rule", name := "Rule", conditions := some [[condition]] }
    let engine : Engine := { registry }
    let run := engine.evaluateRule (.ok settings) .sync (Context.lone.withRule rule)
    engine.visited settings .sync .lone rule = [[condition]] ∧
      registry.awaits settings (Context.lone.withRule rule) condition = true ∧
      (Metrics.ofEvents run.events).failures.get Reason.pending.name = 0 :=
  ⟨rfl, rfl, rfl⟩

end PlaybackRules
