import PlaybackRules.Evaluation.RuleSet
import PlaybackRules.Proofs.Walk

/-!
# Rule sets

The results of a pass are what the rules contribute to it, one after another
(`Engine.results_evaluateRules`), and a rule contributes the same in two contexts as soon as all its
conditions start alike in them (`Engine.evaluateRule_congr`).
-/

namespace PlaybackRules

variable (engine : Engine) (config : Configuration) (mode : Mode)

/-! ## Contributions -/

/-- What a rule contributes to the results of a pass: its result, if it applies and matches. -/
def Engine.contribution (context : Context) (rule : Rule) : List EvaluationResult :=
  if rule.isApplicable context then (engine.passRule config mode context rule).results else []

theorem Engine.results_passRules (context : Context) (rules : List Rule) :
    (engine.passRules config mode context rules).results =
      rules.flatMap (engine.contribution config mode context) := by
  unfold Engine.passRules
  induction rules with
  | nil => rfl
  | cons rule rules ih =>
      rw [List.flatMap_cons, ← ih]
      unfold Engine.contribution
      cases h : rule.isApplicable context with
      | false => rw [List.filter_cons_of_neg (by simp [h])]; rfl
      | true => rw [List.filter_cons_of_pos (by simp [h])]; rfl

theorem Engine.results_evaluateRules (context : Context) (rules : List Rule) (trace : TraceState) :
    (engine.evaluateRules config mode context rules trace).results =
      rules.flatMap (engine.contribution config mode context) :=
  engine.results_passRules config mode context rules

/-- Stamping the events of a pass leaves them as they are. -/
theorem Engine.map_event_evaluateRules (context : Context) (rules : List Rule)
    (trace : TraceState) :
    (engine.evaluateRules config mode context rules trace).events.map Stamped.event =
      (engine.passRules config mode context rules).events := by
  unfold Engine.evaluateRules
  simp only [List.map_map]
  exact List.map_id _

/-- What happens in a pass over an applicable rule happens in the pass over all. -/
theorem Engine.mem_events_passRules {context : Context} {event : Event} {rule : Rule}
    (happlicable : rule.isApplicable context = true)
    (h : event ∈ (engine.passRule config mode context rule).events) {rules : List Rule}
    (hrule : rule ∈ rules) : event ∈ (engine.passRules config mode context rules).events := by
  have hkept : rule ∈ rules.filter (·.isApplicable context) :=
    List.mem_filter.2 ⟨hrule, happlicable⟩
  unfold Engine.passRules
  generalize rules.filter (·.isApplicable context) = applicable at hkept ⊢
  induction applicable with
  | nil => exact absurd hkept List.not_mem_nil
  | cons other rules ih =>
      rw [List.foldr_cons]
      refine List.mem_append.2 ?_
      rcases List.mem_cons.1 hkept with rfl | hkept
      · exact .inl h
      · exact .inr (ih hkept)

/-! ## Conditions that start alike -/

variable {engine config mode} {context context' : Context}

/-- A condition with a built-in evaluator starts alike where its field finds the same and asks about
the same addresses. -/
theorem Engine.start_builtIn_congr {suspends : Bool} {ruleId : String} {condition : Condition}
    (h : ∀ field, condition.field.field? = some field →
      field.observe config.defaultWindow context condition =
        field.observe config.defaultWindow context' condition ∧
      field.asks context = field.asks context') :
    ({ suspends } : Engine).start config context ruleId condition =
      ({ suspends } : Engine).start config context' ruleId condition := by
  unfold Engine.start
  cases hcondition : condition.field.field? with
  | none => rfl
  | some field =>
      obtain ⟨hobserve, hasks⟩ := h field hcondition
      have hcall : field.evaluator config.defaultWindow context condition =
          field.evaluator config.defaultWindow context' condition := by
        unfold Field.evaluator
        rw [hobserve, hasks]
      simp only [Option.bind_some, Registry.builtIn, hcall]

theorem Engine.evaluateGroup_congr {ruleId : String} {group : ConditionGroup}
    (h : ∀ condition ∈ group, engine.start config context ruleId condition =
      engine.start config context' ruleId condition) :
    engine.evaluateGroup config mode context ruleId group =
      engine.evaluateGroup config mode context' ruleId group := by
  unfold Engine.evaluateGroup
  rw [Journaled.forEach_congr h]

theorem Engine.evaluateGroups_congr {ruleId : String} : ∀ {index : Nat} {groups : RuleConditions},
    (∀ group ∈ groups, ∀ condition ∈ group, engine.start config context ruleId condition =
      engine.start config context' ruleId condition) →
    engine.evaluateGroups config mode context ruleId index groups =
      engine.evaluateGroups config mode context' ruleId index groups
  | _, [], _ => rfl
  | index, group :: groups, h => by
      have hgroup : engine.evaluateGroup config mode context ruleId group =
          engine.evaluateGroup config mode context' ruleId group :=
        Engine.evaluateGroup_congr (h group (List.mem_cons_self ..))
      have hgroups : engine.evaluateGroups config mode context ruleId (index + 1) groups =
          engine.evaluateGroups config mode context' ruleId (index + 1) groups :=
        Engine.evaluateGroups_congr fun other hmem => h other (List.mem_cons_of_mem group hmem)
      unfold Engine.evaluateGroups
      rw [hgroup, hgroups]

theorem Engine.evaluateRule_congr {rule : Rule}
    (h : ∀ group ∈ rule.conditions.getD [], ∀ condition ∈ group,
      engine.start config (context.withRule rule) rule.id condition =
        engine.start config (context'.withRule rule) rule.id condition) :
    engine.evaluateRule config mode (context.withRule rule) =
      engine.evaluateRule config mode (context'.withRule rule) := by
  have hresult : engine.resultOf config mode (context.withRule rule) rule =
      engine.resultOf config mode (context'.withRule rule) rule := by
    unfold Engine.resultOf
    cases hconditions : rule.conditions with
    | none => rfl
    | some groups =>
        rw [hconditions, Option.getD_some] at h
        simp only [Engine.evaluateGroups_congr h]
  show (do
    let result ← engine.resultOf config mode (context.withRule rule) rule
    result.record config mode
    return result) = _
  rw [hresult]
  rfl

end PlaybackRules
