import PlaybackRules.Proofs.Agreement
import PlaybackRules.Proofs.Meaning

/-!
# What a result says

A result is that of its rule (`EvaluationResult.WellFormed`).  If the rule matched, it lists all
groups, and has the actions of the rule and the evidence of every group: one piece for each
condition, in order, with what the condition says, and one that matched unless there are none.  If
the rule did not match, it says nothing more.  Every evaluation under valid settings gives such a
result (`Engine.evaluateRule_wellFormed`).
-/

namespace PlaybackRules

/-- The evidence that a group holds: it repeats the conditions of the group in order, and one of
them matched, unless the group is empty. -/
structure GroupEvidence.Supports (index : Nat) (group : ConditionGroup) (found : GroupEvidence) :
    Prop where
  index_eq : found.index = index
  matched_eq : found.matched = true
  conditions : List.Forall₂ ConditionEvidence.HasShape group found.conditions
  exists_matched : group = [] ∨ ∃ evidence ∈ found.conditions, evidence.matched = true

/-- The result of a rule that matched, given its groups and their evidence. -/
structure EvaluationResult.IsMatch (rule : Rule) (result : EvaluationResult)
    (groups : RuleConditions) (evidence : List GroupEvidence) : Prop where
  conditions_eq : rule.conditions = some groups
  matchedGroups_eq : result.matchedGroups = (List.range groups.length).map Int.ofNat
  actions_eq : result.actions = rule.actions
  evidence_eq : result.evidence = some evidence
  length_eq : evidence.length = groups.length
  supports : ∀ (i : Nat) (h : i < groups.length) (h' : i < evidence.length),
    evidence[i].Supports i groups[i]

/-- A result has the form that its rule calls for, matched or not. -/
structure EvaluationResult.WellFormed (rule : Rule) (result : EvaluationResult) : Prop where
  ruleId_eq : result.ruleId = rule.id
  ruleName_eq : result.ruleName = rule.name
  of_matched : result.matched = true → ∃ groups evidence, result.IsMatch rule groups evidence
  of_unmatched : result.matched = false →
    result.matchedGroups = [] ∧ result.actions = [] ∧ result.evidence = none

/-! ## Results from evidence -/

theorem EvaluationResult.wellFormed_unmatched (rule : Rule) :
    (EvaluationResult.unmatched rule).WellFormed rule where
  ruleId_eq := rfl
  ruleName_eq := rfl
  of_matched h := absurd h Bool.false_ne_true
  of_unmatched _ := ⟨rfl, rfl, rfl⟩

section Evidence

variable {evidence : Condition → ConditionEvidence}
  (hshape : ∀ condition, (evidence condition).HasShape condition)
include hshape

theorem ConditionGroup.supports_evidenceBy (index : Nat) {group : ConditionGroup}
    (h : group = [] ∨ ∃ condition ∈ group, (evidence condition).matched = true) :
    (group.evidenceBy evidence index).Supports index group where
  index_eq := rfl
  matched_eq := rfl
  conditions := List.forall₂_map_right_iff.2 <|
    List.forall₂_same.2 fun condition _ => hshape condition
  exists_matched := h.imp_right fun ⟨condition, hmem, hmatched⟩ =>
    ⟨evidence condition, List.mem_map_of_mem hmem, hmatched⟩

theorem Rule.wellFormed_resultBy (rule : Rule) : (rule.resultBy evidence).WellFormed rule := by
  rw [Rule.resultBy_eq]
  cases hrule : rule.holdsBy evidence with
  | false => exact EvaluationResult.wellFormed_unmatched rule
  | true =>
      obtain ⟨groups, hgroups, hholds⟩ := (rule.holdsBy_iff evidence).1 hrule
      rw [if_pos rfl, hgroups, Option.getD_some]
      have hindices : (groups.mapIdx (ConditionGroup.evidenceBy evidence)).map
          (fun found => (found.index : Int)) = (List.range groups.length).map Int.ofNat := by
        apply List.ext_getElem
        · simp
        · intro i _ _
          simp [ConditionGroup.evidenceBy]
      refine ⟨rfl, rfl, fun _ => ⟨groups, groups.mapIdx (ConditionGroup.evidenceBy evidence),
        hgroups, hindices, rfl, rfl, List.length_mapIdx, fun i h h' => ?_⟩,
        fun h => absurd h Bool.noConfusion⟩
      rw [List.getElem_mapIdx]
      exact ConditionGroup.supports_evidenceBy hshape i (hholds _ (List.getElem_mem h))

end Evidence

theorem Engine.wellFormed_resultFor (engine : Engine) (settings : Settings) (mode : Mode)
    (context : Context) (rule : Rule) :
    (engine.resultFor settings mode context rule).WellFormed rule := by
  unfold Engine.resultFor
  cases engine.isStuck mode (rule.conditions.getD []) with
  | true => exact EvaluationResult.wellFormed_unmatched rule
  | false =>
      have hshape : ∀ condition, (engine.registry.evidence settings mode (context.withRule rule)
          condition).HasShape condition := fun condition =>
        engine.registry.hasShape_evidence settings (context.withRule rule) condition mode
      exact rule.wellFormed_resultBy hshape

/-- Every evaluation gives a result, and one in the form that its rule calls for. -/
theorem Engine.evaluateRule_wellFormed (engine : Engine) (settings : Settings) (mode : Mode)
    (context : Context) (rule : Rule) :
    ∃ result, (engine.evaluateRule (.ok settings) mode (context.withRule rule)).outcome =
      .ok result ∧ result.WellFormed rule :=
  ⟨engine.resultFor settings mode context rule,
    engine.outcome_evaluateRule settings mode context rule,
    engine.wellFormed_resultFor settings mode context rule⟩

end PlaybackRules
