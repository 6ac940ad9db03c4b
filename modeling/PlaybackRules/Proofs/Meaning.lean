import PlaybackRules.Proofs.Walk

/-!
# The meaning of a rule

A rule means that every group is empty or has a condition that is satisfied by its own outcome.
Evaluation under valid settings always gives a result, which matches exactly when that is so, and
calls the evaluators of the groups it reaches: of all their conditions, in order
(`Engine.evaluateRule_meaning`).
-/

namespace PlaybackRules

/-- Does an outcome satisfy a condition?  It has to be a report that can be read as evidence and
whose verdict counts as true. -/
def Outcome.satisfies (condition : Condition) : Outcome → Bool
  | report r => (r.evidence? condition).isSome && r.matched.isTruthy
  | other _ => false
  | failed _ => false

/-- Is a condition satisfied by its own outcome, if the mode gets one out of its evaluator? -/
def Registry.satisfies (registry : Registry) (settings : Settings) (mode : Mode) (context : Context)
    (condition : Condition) : Bool :=
  (registry.outcome? settings mode context condition).any (Outcome.satisfies condition)

/-! ## One condition -/

theorem Outcome.matched_judge (condition : Condition) (outcome : Outcome) :
    (condition.underVerdict (outcome.judge condition)).matched = outcome.satisfies condition := by
  cases outcome with
  | report r =>
      simp only [Outcome.judge, Outcome.satisfies]
      cases hevidence : r.evidence? condition with
      | none => rfl
      | some evidence =>
          obtain ⟨related, details, rfl⟩ := Report.evidence?_eq_some hevidence
          rfl
  | other value => rfl
  | failed failure => rfl

theorem Registry.matched_evidence (registry : Registry) (settings : Settings) (mode : Mode)
    (context : Context) (condition : Condition) :
    (registry.evidence settings mode context condition).matched =
      registry.satisfies settings mode context condition := by
  rw [Registry.evidence_eq, Registry.satisfies]
  cases registry.outcome? settings mode context condition with
  | none => rfl
  | some outcome => exact outcome.matched_judge condition

/-! ## Groups and rules -/

theorem ConditionGroup.holdsBy_eq (evidence : Condition → ConditionEvidence)
    (group : ConditionGroup) :
    group.holdsBy evidence =
      (group.isEmpty || group.any fun condition => (evidence condition).matched) := by
  unfold ConditionGroup.holdsBy groupHolds
  rw [List.isEmpty_map, List.any_map]
  rfl

theorem Rule.holdsBy_iff (evidence : Condition → ConditionEvidence) (rule : Rule) :
    rule.holdsBy evidence = true ↔ ∃ groups, rule.conditions = some groups ∧
      ∀ group ∈ groups, group = [] ∨ ∃ condition ∈ group, (evidence condition).matched = true := by
  unfold Rule.holdsBy
  rw [Option.any_eq_true]
  simp only [List.all_eq_true, ConditionGroup.holdsBy_eq, Bool.or_eq_true, List.isEmpty_iff,
    List.any_eq_true]

/-- A group holds when it is empty or one of its conditions is satisfied. -/
theorem Registry.groupHolds_eq (registry : Registry) (settings : Settings) (mode : Mode)
    (context : Context) :
    registry.groupHolds settings mode context = fun group =>
      group.isEmpty || group.any (registry.satisfies settings mode context) := by
  funext group
  rw [Registry.groupHolds, ConditionGroup.holdsBy_eq]
  simp only [Registry.matched_evidence]

theorem EvaluationResult.invoked_recordEvents (settings : Settings) (mode : Mode)
    (result : EvaluationResult) :
    (result.recordEvents settings mode).filterMap Event.invoked? = [] := by
  unfold EvaluationResult.recordEvents
  by_cases hmetrics : settings.metricsEnabled = true
  · cases hmatched : result.matched <;> simp [hmetrics, Event.invoked?]
  · simp [hmetrics, Event.invoked?]

theorem Engine.invoked_ruleEvents (engine : Engine) (settings : Settings) (mode : Mode)
    (context : Context) (rule : Rule) :
    (engine.ruleEvents settings mode context rule).filterMap Event.invoked? =
      ((rule.conditions.getD []).reached (engine.registry.groupHolds settings mode
        (context.withRule rule))).flatten.filter engine.registry.covers := by
  unfold Engine.ruleEvents
  rw [List.filterMap_append, EvaluationResult.invoked_recordEvents, List.append_nil,
    List.filterMap_flatMap, List.filter_flatten, List.flatMap_def]
  simp only [Engine.invoked_group]

/-- Evaluation gives a result whatever its evaluators do; the rule matches exactly when every group
is empty or has a condition that is satisfied; and the evaluators that are called are those of all
conditions, in order, up to and including the first group of which that is not so. -/
theorem Engine.evaluateRule_meaning (registry : Registry) (settings : Settings) (mode : Mode)
    (context : Context) (rule : Rule) :
    let run := ({ registry } : Engine).evaluateRule (.ok settings) mode (context.withRule rule)
    let satisfied := registry.satisfies settings mode (context.withRule rule)
    ∃ result, run.outcome = .ok result ∧
      (result.matched = true ↔ ∃ groups, rule.conditions = some groups ∧
        ∀ group ∈ groups, group = [] ∨ ∃ condition ∈ group, satisfied condition = true) ∧
      run.events.filterMap Event.invoked? =
        ((rule.conditions.getD []).reached fun group =>
          group.isEmpty || group.any satisfied).flatten.filter registry.covers := by
  intro run satisfied
  have hrun := Engine.evaluateRule_ok settings mode context { registry } rule
    (by simp [Engine.isStuck])
  have hmatched : ∀ condition,
      (registry.evidence settings mode (context.withRule rule) condition).matched =
        satisfied condition := registry.matched_evidence settings mode (context.withRule rule)
  have hholds : (fun group : ConditionGroup => group.isEmpty || group.any satisfied) =
      registry.groupHolds settings mode (context.withRule rule) := by
    funext group
    rw [Registry.groupHolds, ConditionGroup.holdsBy_eq]
    simp only [hmatched]
  refine ⟨_, congrArg Journaled.outcome hrun, ?_, ?_⟩
  · rw [Rule.matched_resultBy, Rule.holdsBy_iff]
    simp only [hmatched]
  · rw [hholds]
    have hevents := congrArg (fun x => x.events.filterMap Event.invoked?) hrun
    exact hevents.trans (Engine.invoked_ruleEvents { registry } settings mode context rule)

end PlaybackRules
