import PlaybackRules.Metrics
import PlaybackRules.Proofs.RuleSet

/-!
# Evaluation without metrics

The switch for metrics decides what is counted, and nothing else.  `Journaled.uncounted` takes the
events that count something out of a computation, and is carried through every step of an
evaluation, since a step consults the switch only to count.  So a pass with metrics switched off is
the same pass with nothing counted (`Engine.evaluateRules_withoutMetrics`).
-/

namespace PlaybackRules

/-! ## The switch -/

/-- Does an event count something? -/
def Event.isCounted : Event → Bool
  | .failed _ => true
  | .evaluated _ => true
  | .matched _ => true
  | _ => false

/-- The counters are read off the events that count. -/
theorem Metrics.ofEvents_filter (events : List Event) :
    Metrics.ofEvents (events.filter Event.isCounted) = Metrics.ofEvents events := by
  unfold Metrics.ofEvents
  simp only [List.filterMap_filter]
  congr 2
  all_goals
    congr 1
    funext event
    cases event <;> rfl

/-- Events that count nothing leave the counters as they are. -/
theorem Metrics.ofEvents_append_uncounted (history events : List Event) :
    Metrics.ofEvents (history ++ events.filter fun event => !event.isCounted) =
      Metrics.ofEvents history := by
  have hnone : (events.filter fun event => !event.isCounted).filter Event.isCounted = [] := by
    simp [List.filter_filter]
  rw [← Metrics.ofEvents_filter, List.filter_append, hnone, List.append_nil,
    Metrics.ofEvents_filter]

/-- The settings with metrics switched off. -/
def Settings.withoutMetrics (settings : Settings) : Settings :=
  { settings with metricsEnabled := false }

/-- The settings in force, if there are any, with metrics switched off. -/
def Configuration.withoutMetrics (config : Configuration) : Configuration :=
  config.map Settings.withoutMetrics

theorem Configuration.defaultWindow_withoutMetrics (config : Configuration) :
    config.withoutMetrics.defaultWindow = config.defaultWindow := by
  cases config <;> rfl

/-! ## Computations that count nothing -/

namespace Journaled

variable {α β : Type}

/-- The computation with nothing counted. -/
def uncounted (x : Journaled α) : Journaled α :=
  { x with events := x.events.filter fun event => !event.isCounted }

theorem uncounted_bind (x : Journaled α) (f : α → Journaled β) :
    (x >>= f).uncounted = x.uncounted >>= fun a => (f a).uncounted := by
  obtain ⟨outcome, events⟩ := x
  cases outcome with
  | error failure => rfl
  | ok a =>
      rw [ok_bind]
      simp only [uncounted, List.filter_append]
      rfl

theorem uncounted_pure (a : α) : (pure a : Journaled α).uncounted = pure a := rfl

theorem uncounted_map (f : α → β) (x : Journaled α) : (f <$> x).uncounted = f <$> x.uncounted := by
  rw [← bind_pure_comp, uncounted_bind, ← bind_pure_comp]
  rfl

theorem uncounted_attempt (x : Journaled α) : x.attempt.uncounted = x.uncounted.attempt := rfl

/-- A step for each member of a list counts nothing when none of the steps does. -/
theorem uncounted_forEach {f g : α → Journaled β} (h : ∀ a, f a = (g a).uncounted) :
    ∀ as : List α, forEach f as = (forEach g as).uncounted
  | [] => rfl
  | a :: as => by
      rw [forEach_cons, forEach_cons, h a, uncounted_forEach h as, uncounted_bind]
      simp only [uncounted_bind, uncounted_pure]

end Journaled

/-! ## Conditions -/

variable (config : Configuration) (ruleId : String)

theorem Condition.close_withoutMetrics (condition : Condition) (closing : Closing) :
    condition.close config.withoutMetrics ruleId closing =
      (condition.close config ruleId closing).uncounted := by
  cases config with
  | error faults => rfl
  | ok settings =>
      show condition.close (.ok settings.withoutMetrics) ruleId closing = _
      rw [Condition.close_ok, Condition.close_ok]
      cases hmetrics : settings.metricsEnabled <;>
        simp [Condition.failureEvents, Settings.withoutMetrics, Journaled.uncounted, hmetrics,
          Event.isCounted]

theorem Condition.conclude_withoutMetrics (condition : Condition) (outcome : Outcome) :
    condition.conclude config.withoutMetrics ruleId outcome =
      (condition.conclude config ruleId outcome).uncounted := by
  unfold Condition.conclude
  cases outcome.judge condition with
  | ok evidence => rfl
  | error closing => exact condition.close_withoutMetrics config ruleId closing

namespace Progress

theorem discard_withoutMetrics (progress : Progress) :
    progress.discard config.withoutMetrics ruleId =
      (progress.discard config ruleId).uncounted := by
  rcases progress with ⟨_ | _⟩ | ⟨condition, pending⟩
  · rfl
  · rfl
  · unfold discard
    simp only [condition.close_withoutMetrics config ruleId]
    cases pending <;> rfl

theorem turn_withoutMetrics (progress : Progress) :
    progress.turn config.withoutMetrics ruleId = (progress.turn config ruleId).uncounted := by
  rcases progress with evidence | ⟨condition, ⟨turns, outcome⟩ | ⟨turns, outcome⟩⟩
  · rfl
  all_goals
    cases turns with
    | succ turns => rfl
    | zero =>
        simp only [turn, Journaled.uncounted_bind, Journaled.uncounted_map,
          Journaled.uncounted_attempt, condition.conclude_withoutMetrics config ruleId]
        rfl

theorem firstTurn_withoutMetrics (progress : Progress) :
    progress.firstTurn config.withoutMetrics ruleId =
      (progress.firstTurn config ruleId).uncounted := by
  have hturn := turn_withoutMetrics config ruleId progress
  unfold firstTurn
  rcases progress with evidence | ⟨condition, task | promise⟩
  · exact hturn
  · simp only [Journaled.uncounted_bind, hturn]
    rfl
  · exact hturn

theorem turns_withoutMetrics : ∀ (count : Nat) (progress : List Progress),
    turns config.withoutMetrics ruleId count progress =
      (turns config ruleId count progress).uncounted
  | 0, _ => rfl
  | count + 1, progress => by
      have hturn := Journaled.uncounted_forEach (turn_withoutMetrics config ruleId) progress
      unfold turns
      rw [hturn, Journaled.uncounted_bind]
      simp only [turns_withoutMetrics count]

theorem uncounted_evidence (progress : Progress) :
    progress.evidence = progress.evidence.uncounted := by
  rcases progress with ⟨_ | _⟩ | ⟨condition, pending⟩ <;> rfl

theorem await_withoutMetrics (progress : List Progress) :
    await config.withoutMetrics ruleId progress = (await config ruleId progress).uncounted := by
  have hfirst := Journaled.uncounted_forEach (firstTurn_withoutMetrics config ruleId) progress
  unfold await
  simp only [hfirst, Journaled.uncounted_bind, turns_withoutMetrics config ruleId,
    ← Journaled.uncounted_forEach uncounted_evidence]

end Progress

/-! ## Groups and rules -/

variable (mode : Mode) (context : Context) (engine : Engine)

theorem Engine.start_withoutMetrics (condition : Condition) :
    engine.start config.withoutMetrics context ruleId condition =
      (engine.start config context ruleId condition).uncounted := by
  unfold Engine.start
  cases condition.field.field?.bind engine.registry with
  | none =>
      simp only [condition.close_withoutMetrics config ruleId, Journaled.uncounted_bind,
        Journaled.uncounted_pure]
  | some evaluator =>
      simp only [config.defaultWindow_withoutMetrics, Journaled.uncounted_bind]
      have hcalled : ∀ asked : List String,
          (Journaled.emit (.invoked condition :: asked.map Event.asked)).uncounted =
            Journaled.emit (.invoked condition :: asked.map Event.asked) := by
        intro asked
        simp [Journaled.uncounted, Event.isCounted]
      rw [hcalled]
      cases (evaluator config.defaultWindow context condition).answer with
      | now outcome =>
          simp only [condition.conclude_withoutMetrics config ruleId, Journaled.uncounted_bind,
            Journaled.uncounted_pure]
      | later pending => rfl

theorem Engine.evaluateGroup_withoutMetrics (group : ConditionGroup) :
    engine.evaluateGroup config.withoutMetrics mode context ruleId group =
      (engine.evaluateGroup config mode context ruleId group).uncounted := by
  have hstart :=
    Journaled.uncounted_forEach (engine.start_withoutMetrics config ruleId context) group
  unfold Engine.evaluateGroup
  rw [hstart, Journaled.uncounted_bind]
  cases mode with
  | sync =>
      simp only [Journaled.uncounted_forEach (Progress.discard_withoutMetrics config ruleId)]
  | async => simp only [Progress.await_withoutMetrics config ruleId]

theorem Engine.evaluateGroups_withoutMetrics : ∀ (index : Nat) (groups : RuleConditions),
    engine.evaluateGroups config.withoutMetrics mode context ruleId index groups =
      (engine.evaluateGroups config mode context ruleId index groups).uncounted
  | _, [] => rfl
  | index, group :: groups => by
      unfold Engine.evaluateGroups
      rw [Engine.evaluateGroup_withoutMetrics, Journaled.uncounted_bind]
      congr 1
      funext conditions
      by_cases hholds : groupHolds conditions = true
      · simp only [if_pos hholds, Engine.evaluateGroups_withoutMetrics (index + 1) groups,
          Journaled.uncounted_bind, Journaled.uncounted_pure]
      · simp only [if_neg hholds, Journaled.uncounted_pure]

theorem Engine.resultOf_withoutMetrics (rule : Rule) :
    engine.resultOf config.withoutMetrics mode context rule =
      (engine.resultOf config mode context rule).uncounted := by
  unfold Engine.resultOf
  cases rule.conditions with
  | none => rfl
  | some groups =>
      by_cases hstuck : engine.isStuck mode groups = true
      · simp only [if_pos hstuck]
        rfl
      · simp only [if_neg hstuck, Journaled.uncounted_bind,
          engine.evaluateGroups_withoutMetrics config rule.id mode context]
        congr 1
        funext evidence
        cases evidence <;> rfl

theorem EvaluationResult.record_withoutMetrics (result : EvaluationResult) :
    result.record config.withoutMetrics mode = (result.record config mode).uncounted := by
  cases config with
  | error faults => rfl
  | ok settings =>
      show result.record (.ok settings.withoutMetrics) mode = _
      rw [EvaluationResult.record_ok, EvaluationResult.record_ok]
      cases hmetrics : settings.metricsEnabled <;> cases hmatched : result.matched <;>
        simp [EvaluationResult.recordEvents, Settings.withoutMetrics, Journaled.uncounted, hmetrics,
          hmatched, Event.isCounted]

theorem Engine.evaluateRule_withoutMetrics :
    engine.evaluateRule config.withoutMetrics mode context =
      (engine.evaluateRule config mode context).uncounted := by
  unfold Engine.evaluateRule
  cases context.rule with
  | none => rfl
  | some rule =>
      simp only [engine.resultOf_withoutMetrics config mode context,
        EvaluationResult.record_withoutMetrics config mode, Journaled.uncounted_bind,
        Journaled.uncounted_pure]

/-! ## Passes -/

/-- The pass with nothing counted. -/
def Pass.uncounted (pass : Pass) : Pass :=
  { pass with events := pass.events.filter fun event => !event.isCounted }

theorem Pass.uncounted_append (first second : Pass) :
    (first ++ second).uncounted = first.uncounted ++ second.uncounted := by
  show Pass.uncounted ⟨_, _⟩ = (⟨_, _⟩ : Pass)
  simp only [Pass.uncounted, List.filter_append]

theorem Engine.passRule_withoutMetrics (rule : Rule) :
    engine.passRule config.withoutMetrics mode context rule =
      (engine.passRule config mode context rule).uncounted := by
  unfold Engine.passRule
  rw [Engine.evaluateRule_withoutMetrics]
  simp only [Journaled.uncounted]
  cases (engine.evaluateRule config mode (context.withRule rule)).outcome with
  | ok result => rfl
  | error failure =>
      simp only [Pass.uncounted, List.filter_append]
      rfl

theorem Engine.passRules_withoutMetrics (rules : List Rule) :
    engine.passRules config.withoutMetrics mode context rules =
      (engine.passRules config mode context rules).uncounted := by
  unfold Engine.passRules
  induction rules.filter (·.isApplicable context) with
  | nil => rfl
  | cons rule rules ih =>
      rw [List.foldr_cons, List.foldr_cons, Pass.uncounted_append, ih,
        Engine.passRule_withoutMetrics]

/-- With metrics switched off, a pass gives the same results and leaves the same traces, and the
same happens in it, but nothing is counted. -/
theorem Engine.evaluateRules_withoutMetrics (rules : List Rule) (trace : TraceState) :
    let pass := engine.evaluateRules config mode context rules trace
    engine.evaluateRules config.withoutMetrics mode context rules trace =
      { pass with events := pass.events.filter fun stamped => !stamped.event.isCounted } := by
  intro pass
  unfold pass Engine.evaluateRules
  rw [Engine.passRules_withoutMetrics]
  simp only [Pass.uncounted, List.filter_map]
  rfl

end PlaybackRules
