import Mathlib.Data.List.TakeWhile
import PlaybackRules.Evaluation.Rule
import PlaybackRules.Proofs.Group

/-!
# The walk over the groups of a rule

The groups that an evaluation reaches are those up to and including the first that does not hold.
`Rule.resultBy` gives the result of a rule from the evidence of its conditions alone, and
`Engine.evaluateRule_ok` says that an evaluation under valid settings gives this result, while
exactly the groups it reaches are evaluated, one after another.
-/

namespace PlaybackRules

/-! ## Results from evidence -/

section Evidence

variable (evidence : Condition → ConditionEvidence)

/-- Does a group hold by the evidence of its conditions? -/
def ConditionGroup.holdsBy (group : ConditionGroup) : Bool := groupHolds (group.map evidence)

/-- The evidence of a group that holds. -/
def ConditionGroup.evidenceBy (index : Nat) (group : ConditionGroup) : GroupEvidence :=
  { index, matched := true, conditions := group.map evidence }

/-- The evidence of groups, counted from an index, if all of them hold. -/
def RuleConditions.evidenceBy (index : Nat) (groups : RuleConditions) :
    Option (List GroupEvidence) :=
  if groups.all (ConditionGroup.holdsBy evidence) then
    some (groups.mapIdx fun i => ConditionGroup.evidenceBy evidence (index + i))
  else none

/-- The result of a rule. -/
def Rule.resultBy (rule : Rule) : EvaluationResult :=
  match rule.conditions.bind (RuleConditions.evidenceBy evidence 0) with
  | some groups => .ofEvidence rule groups
  | none => .unmatched rule

/-- Does a rule match by the evidence of its conditions? -/
def Rule.holdsBy (rule : Rule) : Bool :=
  rule.conditions.any fun groups => groups.all (ConditionGroup.holdsBy evidence)

theorem Rule.resultBy_eq (rule : Rule) :
    rule.resultBy evidence =
      if rule.holdsBy evidence then
        .ofEvidence rule ((rule.conditions.getD []).mapIdx (ConditionGroup.evidenceBy evidence))
      else .unmatched rule := by
  unfold Rule.resultBy Rule.holdsBy RuleConditions.evidenceBy
  cases rule.conditions with
  | none => rfl
  | some groups =>
      rw [Option.bind_some, Option.any_some, Option.getD_some]
      by_cases h : groups.all (ConditionGroup.holdsBy evidence) = true
      · simp only [if_pos h, Nat.zero_add]
      · rw [if_neg h, if_neg h]

theorem Rule.matched_resultBy (rule : Rule) :
    (rule.resultBy evidence).matched = rule.holdsBy evidence := by
  rw [Rule.resultBy_eq]
  cases rule.holdsBy evidence <;> rfl

end Evidence

theorem RuleConditions.evidenceBy_cons (evidence : Condition → ConditionEvidence) (index : Nat)
    (group : ConditionGroup) (groups : RuleConditions) :
    evidenceBy evidence index (group :: groups) =
      if group.holdsBy evidence then
        (evidenceBy evidence (index + 1) groups).map (group.evidenceBy evidence index :: ·)
      else none := by
  unfold evidenceBy
  by_cases hgroup : group.holdsBy evidence = true
  · by_cases hgroups : groups.all (ConditionGroup.holdsBy evidence) = true
    · simp [hgroup, hgroups, List.mapIdx_cons, Nat.add_assoc, Nat.add_comm 1]
    · simp [hgroup, hgroups]
  · simp [hgroup]

theorem RuleConditions.evidenceBy_congr {evidence evidence' : Condition → ConditionEvidence} :
    ∀ (index : Nat) {groups : RuleConditions},
      (∀ group ∈ groups, ∀ condition ∈ group, evidence' condition = evidence condition) →
        evidenceBy evidence' index groups = evidenceBy evidence index groups
  | _, [], _ => rfl
  | index, group :: groups, h => by
      have hgroup : group.map evidence' = group.map evidence :=
        List.map_congr_left (h group (List.mem_cons_self ..))
      have hgroups := evidenceBy_congr (index + 1) fun other hother =>
        h other (List.mem_cons_of_mem group hother)
      rw [evidenceBy_cons, evidenceBy_cons, hgroups]
      unfold ConditionGroup.holdsBy ConditionGroup.evidenceBy
      rw [hgroup]

/-- The result of a rule depends on the evidence of its own conditions only. -/
theorem Rule.resultBy_congr {evidence evidence' : Condition → ConditionEvidence} (rule : Rule)
    (h : ∀ group ∈ rule.conditions.getD [], ∀ condition ∈ group,
      evidence' condition = evidence condition) :
    rule.resultBy evidence' = rule.resultBy evidence := by
  unfold Rule.resultBy
  cases hconditions : rule.conditions with
  | none => rfl
  | some groups =>
      rw [hconditions, Option.getD_some] at h
      rw [Option.bind_some, Option.bind_some, RuleConditions.evidenceBy_congr 0 h]

/-! ## The groups that are reached -/

/-- The groups up to and including the first that does not hold. -/
def RuleConditions.reached (holds : ConditionGroup → Bool) (groups : RuleConditions) :
    RuleConditions :=
  groups.takeWhile holds ++ (groups.dropWhile holds).take 1

theorem RuleConditions.reached_cons (holds : ConditionGroup → Bool) (group : ConditionGroup)
    (groups : RuleConditions) :
    reached holds (group :: groups) =
      group :: if holds group then reached holds groups else [] := by
  unfold reached
  by_cases h : holds group = true <;> simp [h]

theorem RuleConditions.reached_prefix (holds : ConditionGroup → Bool) (groups : RuleConditions) :
    reached holds groups <+: groups := by
  refine ⟨(groups.dropWhile holds).drop 1, ?_⟩
  rw [reached, List.append_assoc, List.take_append_drop, List.takeWhile_append_dropWhile]

/-! ## Evaluation -/

/-- How the result of a rule is logged and counted. -/
def EvaluationResult.recordEvents (settings : Settings) (mode : Mode) (result : EvaluationResult) :
    List Event :=
  .logged (.ruleEvaluated result mode) ::
    if settings.metricsEnabled then
      .evaluated mode :: if result.matched then [.matched result.ruleId] else []
    else []

variable (settings : Settings) (mode : Mode) (context : Context) (ruleId : String)

/-- Does a group hold, by what its conditions come to? -/
def Registry.groupHolds (registry : Registry) (group : ConditionGroup) : Bool :=
  group.holdsBy (registry.evidence settings mode context)

/-- Exactly the groups that are reached are evaluated, and their evidence is kept if all hold. -/
theorem Engine.evaluateGroups_ok (engine : Engine) : ∀ (index : Nat) (groups : RuleConditions),
    engine.evaluateGroups (.ok settings) mode context ruleId index groups =
      ⟨.ok (groups.evidenceBy (engine.registry.evidence settings mode context) index),
        (groups.reached (engine.registry.groupHolds settings mode context)).flatMap
          (engine.groupEvents settings mode context ruleId)⟩
  | _, [] => rfl
  | index, group :: groups => by
      have hholds : PlaybackRules.groupHolds (group.map
          (engine.registry.evidence settings mode context)) =
            engine.registry.groupHolds settings mode context group := rfl
      unfold Engine.evaluateGroups
      rw [Engine.evaluateGroup_eq, Journaled.ok_bind, RuleConditions.reached_cons,
        RuleConditions.evidenceBy_cons, Engine.evaluateGroups_ok engine (index + 1) groups, hholds,
        ← Registry.groupHolds]
      by_cases h : engine.registry.groupHolds settings mode context group = true
      · simp [h, ConditionGroup.evidenceBy]
      · simp [h]

theorem EvaluationResult.record_ok (result : EvaluationResult) :
    result.record (.ok settings) mode = ⟨.ok (), result.recordEvents settings mode⟩ := by
  unfold EvaluationResult.record EvaluationResult.recordEvents
  by_cases h : settings.metricsEnabled = true <;> simp [h, Journaled.settings_ok]

/-- What happens when a rule is evaluated. -/
def Engine.ruleEvents (engine : Engine) (rule : Rule) : List Event :=
  ((rule.conditions.getD []).reached
    (engine.registry.groupHolds settings mode (context.withRule rule))).flatMap
      (engine.groupEvents settings mode (context.withRule rule) rule.id) ++
    (rule.resultBy (engine.registry.evidence settings mode (context.withRule rule))).recordEvents
      settings mode

theorem Engine.evaluateRule_eq (engine : Engine) (rule : Rule) {result : EvaluationResult}
    {events : List Event}
    (h : engine.resultOf (.ok settings) mode (context.withRule rule) rule = ⟨.ok result, events⟩) :
    engine.evaluateRule (.ok settings) mode (context.withRule rule) =
      ⟨.ok result, events ++ result.recordEvents settings mode⟩ := by
  show (do
    let result ← engine.resultOf (.ok settings) mode (context.withRule rule) rule
    result.record (.ok settings) mode
    return result) = _
  rw [h, Journaled.ok_bind, EvaluationResult.record_ok, Journaled.ok_bind]
  simp

/-- Evaluating a rule always succeeds, unless it is stuck before it starts. -/
theorem Engine.evaluateRule_ok (engine : Engine) (rule : Rule)
    (h : engine.isStuck mode (rule.conditions.getD []) = false) :
    engine.evaluateRule (.ok settings) mode (context.withRule rule) =
      ⟨.ok (rule.resultBy (engine.registry.evidence settings mode (context.withRule rule))),
        engine.ruleEvents settings mode context rule⟩ := by
  apply engine.evaluateRule_eq
  unfold Engine.resultOf Rule.resultBy
  cases hconditions : rule.conditions with
  | none => rfl
  | some groups =>
      rw [hconditions] at h
      simp only [Option.getD_some, Option.bind_some] at h ⊢
      rw [if_neg (by simp [h]), Engine.evaluateGroups_ok, Journaled.ok_bind]
      cases RuleConditions.evidenceBy _ 0 groups <;> simp

/-- A rule that is stuck does not match, and no evaluator is called. -/
theorem Engine.evaluateRule_stuck (engine : Engine) (rule : Rule)
    (h : engine.isStuck mode (rule.conditions.getD []) = true) :
    engine.evaluateRule (.ok settings) mode (context.withRule rule) =
      ⟨.ok (.unmatched rule), .logged (.suspended rule.id) ::
        (EvaluationResult.unmatched rule).recordEvents settings mode⟩ := by
  have hresult : engine.resultOf (.ok settings) mode (context.withRule rule) rule =
      ⟨.ok (.unmatched rule), [.logged (.suspended rule.id)]⟩ := by
    unfold Engine.resultOf
    cases hconditions : rule.conditions with
    | none => simp [hconditions, Engine.isStuck] at h
    | some groups =>
        rw [hconditions, Option.getD_some] at h
        simp only [if_pos h]
        rfl
  exact engine.evaluateRule_eq settings mode context rule hresult

/-- What the evaluation of a rule comes to: no match if it is stuck, else what the evidence of its
conditions says. -/
def Engine.resultFor (engine : Engine) (rule : Rule) : EvaluationResult :=
  if engine.isStuck mode (rule.conditions.getD []) then .unmatched rule
  else rule.resultBy (engine.registry.evidence settings mode (context.withRule rule))

theorem Engine.resultFor_of_not_stuck {engine : Engine} {rule : Rule}
    (h : engine.isStuck mode (rule.conditions.getD []) = false) :
    engine.resultFor settings mode context rule =
      rule.resultBy (engine.registry.evidence settings mode (context.withRule rule)) :=
  if_neg (ne_true_of_eq_false h)

theorem Engine.not_stuck_of_matched {engine : Engine} {rule : Rule}
    (h : (engine.resultFor settings mode context rule).matched = true) :
    engine.isStuck mode (rule.conditions.getD []) = false := by
  rw [← Bool.not_eq_true]
  intro hstuck
  rw [Engine.resultFor, if_pos hstuck] at h
  exact absurd h Bool.false_ne_true

/-- Evaluating a rule always gives a result, stuck or not. -/
theorem Engine.outcome_evaluateRule (engine : Engine) (rule : Rule) :
    (engine.evaluateRule (.ok settings) mode (context.withRule rule)).outcome =
      .ok (engine.resultFor settings mode context rule) := by
  cases hstuck : engine.isStuck mode (rule.conditions.getD []) with
  | true =>
      have hrun := engine.evaluateRule_stuck settings mode context rule hstuck
      rw [hrun, Engine.resultFor, if_pos hstuck]
  | false =>
      have hrun := engine.evaluateRule_ok settings mode context rule hstuck
      rw [hrun, Engine.resultFor_of_not_stuck settings mode context hstuck]

end PlaybackRules
