import PlaybackRules.Evaluation.Group

/-!
# Evaluation of a rule

The groups of a rule are evaluated one after another up to the first that does not hold.  A rule
matches when all hold, and then its result carries the evidence of every group and its actions.
The result is logged and counted at the end.
-/

namespace PlaybackRules

/-- The evidence of all groups, none if one of them does not hold.  The groups after that one are
not evaluated. -/
def Engine.evaluateGroups (engine : Engine) (config : Configuration) (mode : Mode)
    (context : Context) (ruleId : String) :
    (index : Nat) → RuleConditions → Journaled (Option (List GroupEvidence))
  | _, [] => .done (some [])
  | index, group :: groups => do
    let conditions ← engine.evaluateGroup config mode context ruleId group
    if groupHolds conditions then
      let rest ← engine.evaluateGroups config mode context ruleId (index + 1) groups
      return rest.map ({ index, matched := true, conditions } :: ·)
    else return none

/-- The result of a rule that matched. -/
def EvaluationResult.ofEvidence (rule : Rule) (evidence : List GroupEvidence) :
    EvaluationResult where
  ruleId := rule.id
  ruleName := rule.name
  matched := true
  matchedGroups := evidence.map fun group => group.index
  actions := rule.actions
  evidence := some evidence

/-- Does evaluation without waiting get stuck on the rule? -/
def Engine.isStuck (engine : Engine) (mode : Mode) (groups : RuleConditions) : Bool :=
  mode == .sync && engine.suspends && !groups.isEmpty

/-- The result of a rule, before it is recorded. -/
def Engine.resultOf (engine : Engine) (config : Configuration) (mode : Mode) (context : Context)
    (rule : Rule) : Journaled EvaluationResult :=
  match rule.conditions with
  | none => .done (.unmatched rule)
  | some groups =>
    if engine.isStuck mode groups then do
      Journaled.emit [.logged (.suspended rule.id)]
      return .unmatched rule
    else do
      match ← engine.evaluateGroups config mode context rule.id 0 groups with
      | some evidence => return .ofEvidence rule evidence
      | none => return .unmatched rule

/-- Logs and counts a result. -/
def EvaluationResult.record (config : Configuration) (mode : Mode) (result : EvaluationResult) :
    Journaled Unit := do
  Journaled.emit [.logged (.ruleEvaluated result mode)]
  let settings ← Journaled.settings config
  if settings.metricsEnabled then
    Journaled.emit (.evaluated mode :: if result.matched then [.matched result.ruleId] else [])

/-- Evaluates the rule attached to a context, if one is. -/
def Engine.evaluateRule (engine : Engine) (config : Configuration) (mode : Mode)
    (context : Context) : Journaled EvaluationResult :=
  match context.rule with
  | none => .fail .noRule
  | some rule => do
    let result ← engine.resultOf config mode context rule
    result.record config mode
    return result

end PlaybackRules
