import PlaybackRules.Proofs.Counters
import PlaybackRules.Proofs.Walk

/-!
# Answers given at once

A registry answers at once when every answer to wait for is replaced by its outcome.  Waiting for
the answers of a registry comes to the same as not waiting for those of the registry at once: the
results are equal, the same failures are counted, and the same failures are logged, each group in
its turn, in an order of its own (`Engine.waiting_atOnce`).  In particular nothing depends on how
many turns an answer takes.
-/

namespace PlaybackRules

/-- The answer with the same outcome, given at once. -/
def Answer.atOnce : Answer → Answer
  | now outcome => .now outcome
  | later pending => .now pending.outcome

/-- The same call, answered at once. -/
def Call.atOnce (call : Call) : Call := { call with answer := call.answer.atOnce }

/-- The registry whose evaluators answer at once. -/
def Registry.atOnce (registry : Registry) : Registry := fun field =>
  (registry field).map fun evaluator window context condition =>
    (evaluator window context condition).atOnce

/-- The engine whose evaluators answer at once, and that does not give up its turn itself. -/
def Engine.atOnce (engine : Engine) : Engine := { registry := engine.registry.atOnce }

/-! ## The same verdicts -/

theorem Call.verdict_atOnce (mode : Mode) (condition : Condition) (call : Call) :
    call.atOnce.verdict mode condition = call.verdict .async condition := by
  obtain ⟨asked, answer⟩ := call
  cases answer <;> rfl

theorem Registry.call?_atOnce (registry : Registry) (settings : Settings) (context : Context)
    (condition : Condition) :
    registry.atOnce.call? settings context condition =
      (registry.call? settings context condition).map Call.atOnce := by
  unfold Registry.call? Registry.atOnce
  cases condition.field.field? with
  | none => rfl
  | some field => simp [Function.comp_def]

variable (settings : Settings) (mode : Mode) (context : Context) (ruleId : String)

theorem Registry.verdict_atOnce (registry : Registry) (condition : Condition) :
    registry.atOnce.verdict settings mode context condition =
      registry.verdict settings .async context condition := by
  unfold Registry.verdict
  rw [Registry.call?_atOnce]
  cases registry.call? settings context condition with
  | none => rfl
  | some call => exact call.verdict_atOnce mode condition

theorem Registry.evidence_atOnce (registry : Registry) :
    registry.atOnce.evidence settings mode context = registry.evidence settings .async context := by
  funext condition
  rw [Registry.evidence, Registry.verdict_atOnce, Registry.evidence]

theorem Registry.groupHolds_atOnce (registry : Registry) :
    registry.atOnce.groupHolds settings mode context =
      registry.groupHolds settings .async context := by
  funext group
  rw [Registry.groupHolds, Registry.evidence_atOnce, Registry.groupHolds]

/-! ## The same failures -/

/-- Is an entry that of a failure, by its level? -/
def Entry.isFailure (entry : Entry) : Bool :=
  match entry.level with
  | .warning => true
  | .error => true
  | _ => false

/-- Does an event count or log a failure? -/
def Event.isFailure : Event → Bool
  | .failed _ => true
  | .logged entry => entry.isFailure
  | _ => false

/-- The entry that an event logs of a failure. -/
def Event.failureEntry? : Event → Option Entry
  | .logged entry => if entry.isFailure then some entry else none
  | _ => none

theorem Event.isRecorded_of_isFailure {event : Event} (h : event.isFailure = true) :
    event.isRecorded = true := by
  cases event with
  | failed reason => rfl
  | logged entry => rfl
  | _ => exact absurd h Bool.noConfusion

theorem Event.reason?_of_not_failure (event : Event) (h : event.isFailure = false) :
    event.reason? = none := by
  cases event with
  | failed reason => exact absurd h Bool.noConfusion
  | _ => rfl

theorem Event.failureEntry?_of_not_failure (event : Event) (h : event.isFailure = false) :
    event.failureEntry? = none := by
  cases event with
  | logged entry => exact if_neg (ne_true_of_eq_false h)
  | _ => rfl

/-- The entries that a run logs of failures. -/
def Journaled.failureEntries {α : Type} (run : Journaled α) : List Entry :=
  run.events.filterMap Event.failureEntry?

section View

variable {α : Type} {view : Event → Option α}
  (hview : ∀ event, event.isFailure = false → view event = none)
include hview

theorem Event.view_of_not_recorded (event : Event) (h : event.isRecorded = false) :
    view event = none := by
  apply hview
  rw [← Bool.not_eq_true] at h ⊢
  exact mt Event.isRecorded_of_isFailure h

theorem EvaluationResult.failures_recordEvents (result : EvaluationResult) :
    (result.recordEvents settings mode).filterMap view = [] := by
  unfold EvaluationResult.recordEvents
  have hentry : view (.logged (.ruleEvaluated result mode)) = none := hview _ rfl
  have hevaluated : view (.evaluated mode) = none := hview _ rfl
  have hmatch : view (.matched result.ruleId) = none := hview _ rfl
  by_cases hmetrics : settings.metricsEnabled = true
  · cases hmatched : result.matched <;> simp [hmetrics, hentry, hevaluated, hmatch]
  · simp [hmetrics, hentry]

/-- The failures of a rule are those of its groups. -/
theorem Engine.failures_ruleEvents (engine : Engine) (rule : Rule) :
    (engine.ruleEvents settings mode context rule).filterMap view =
      ((rule.conditions.getD []).reached (engine.registry.groupHolds settings mode
        (context.withRule rule))).flatMap fun group =>
          (engine.groupEvents settings mode (context.withRule rule) rule.id group).filterMap
            view := by
  unfold Engine.ruleEvents
  rw [List.filterMap_append, EvaluationResult.failures_recordEvents settings mode hview,
    List.append_nil, List.filterMap_flatMap]

/-- Waiting for a group comes to a rearrangement of the failures of its answers at once. -/
theorem Engine.failures_groupEvents_perm (engine : Engine) (group : ConditionGroup) :
    ((engine.groupEvents settings .async context ruleId group).filterMap view).Perm
      ((engine.atOnce.groupEvents settings mode context ruleId group).filterMap view) := by
  have hrecorded := Event.view_of_not_recorded hview
  have hwaiting := engine.view_group settings .async context ruleId hrecorded group
  have hdirect := engine.atOnce.view_group settings mode context ruleId hrecorded group
  simp only [Engine.atOnce, Registry.verdict_atOnce] at hdirect
  exact hwaiting.trans hdirect.symm

end View

/-- Waiting for answers gives the result that the answers at once give, counts the same failures,
and logs the same ones, up to their order within one group. -/
theorem Engine.waiting_atOnce (engine : Engine) (rule : Rule) :
    let waiting := engine.evaluateRule (.ok settings) .async (context.withRule rule)
    let direct := engine.atOnce.evaluateRule (.ok settings) .sync (context.withRule rule)
    let waitingFor := engine.evaluateGroup (.ok settings) .async (context.withRule rule) rule.id
    let directly :=
      engine.atOnce.evaluateGroup (.ok settings) .sync (context.withRule rule) rule.id
    (∃ result, waiting.outcome = .ok result ∧ direct.outcome = .ok result) ∧
    (∀ (history : List Event) (reason : Reason),
      (Metrics.ofEvents (history ++ waiting.events)).failures.get reason.name =
        (Metrics.ofEvents (history ++ direct.events)).failures.get reason.name) ∧
    ∃ reached, reached <+: rule.conditions.getD [] ∧
      waiting.failureEntries = reached.flatMap (fun group => (waitingFor group).failureEntries) ∧
      direct.failureEntries = reached.flatMap (fun group => (directly group).failureEntries) ∧
      ∀ group ∈ reached,
        (waitingFor group).failureEntries.Perm (directly group).failureEntries := by
  intro waiting direct waitingFor directly
  have hwaiting := engine.evaluateRule_ok settings .async context rule (by simp [Engine.isStuck])
  have hdirect := engine.atOnce.evaluateRule_ok settings .sync context rule
    (by simp [Engine.isStuck, Engine.atOnce])
  have hevidence : engine.atOnce.registry.evidence settings .sync (context.withRule rule) =
      engine.registry.evidence settings .async (context.withRule rule) :=
    engine.registry.evidence_atOnce settings .sync (context.withRule rule)
  have hholds : engine.atOnce.registry.groupHolds settings .sync (context.withRule rule) =
      engine.registry.groupHolds settings .async (context.withRule rule) :=
    engine.registry.groupHolds_atOnce settings .sync (context.withRule rule)
  have hwaitingEvents := congrArg Journaled.events hwaiting
  have hdirectEvents := congrArg Journaled.events hdirect
  refine ⟨⟨_, congrArg Journaled.outcome hwaiting, ?_⟩, fun history reason => ?_, ?_⟩
  · rw [← hevidence]
    exact congrArg Journaled.outcome hdirect
  · have hview := Event.reason?_of_not_failure
    rw [Metrics.get_failures, Metrics.get_failures, List.filterMap_append, List.filterMap_append,
      List.count_append, List.count_append, hwaitingEvents, hdirectEvents,
      engine.failures_ruleEvents settings .async context hview,
      engine.atOnce.failures_ruleEvents settings .sync context hview, hholds]
    congr 1
    refine List.Perm.count_eq (List.Perm.flatMap_left _ fun group _ => ?_) reason
    exact engine.failures_groupEvents_perm settings .sync _ rule.id hview group
  · have hview := Event.failureEntry?_of_not_failure
    refine ⟨(rule.conditions.getD []).reached
      (engine.registry.groupHolds settings .async (context.withRule rule)),
      RuleConditions.reached_prefix _ _, ?_, ?_, fun group _ => ?_⟩
    · unfold Journaled.failureEntries
      rw [hwaitingEvents]
      exact engine.failures_ruleEvents settings .async context hview rule
    · unfold Journaled.failureEntries
      rw [hdirectEvents, ← hholds]
      exact engine.atOnce.failures_ruleEvents settings .sync context hview rule
    · exact engine.failures_groupEvents_perm settings .sync _ rule.id hview group

end PlaybackRules
