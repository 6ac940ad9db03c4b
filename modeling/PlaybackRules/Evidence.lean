import PlaybackRules.Rule

/-!
# Evidence and results

The outcome of a rule, with the observation behind every condition when it matched.
-/

namespace PlaybackRules

/-- The outcome of one condition. -/
structure ConditionEvidence where
  field : String
  operator : Operator
  threshold : Value := .null
  /-- What was observed, null on failure. -/
  actual : Value := .null
  matched : Bool
  /-- Other sessions that contributed. -/
  related : Option (List String) := none
  details : Option Entries := none

namespace ConditionEvidence

def read : Reader ConditionEvidence := .record fun entries =>
  mk <$> Reader.required "field" .string entries
    <*> Reader.required "operator" (.named .operatorName Operator.ofName?) entries
    <*> Reader.optional "threshold" .any .null entries
    <*> Reader.optional "actual" .any .null entries
    <*> Reader.required "matched" .bool entries
    <*> Reader.optional "related_session_ids" (.nullable (.list .string)) none entries
    <*> Reader.optional "details" (.nullable .object) none entries

def write (evidence : ConditionEvidence) : Value := .object [
  ("field", .str evidence.field),
  ("operator", .str evidence.operator.name),
  ("threshold", evidence.threshold),
  ("actual", evidence.actual),
  ("matched", .bool evidence.matched),
  ("related_session_ids", .ofOption (.ofList .str) evidence.related),
  ("details", .ofOption .object evidence.details)]

end ConditionEvidence

/-- The outcome of one group, with that of every condition in it. -/
structure GroupEvidence where
  index : Nat
  matched : Bool
  conditions : List ConditionEvidence := []

namespace GroupEvidence

/-- An integer that is not negative. -/
def readIndex : Reader Nat := fun value =>
  (Reader.int value).andThen fun n =>
    if 0 ≤ n then .ok n.toNat else .fault .greaterThanEqual

def read : Reader GroupEvidence := .record fun entries =>
  mk <$> Reader.required "group_index" readIndex entries
    <*> Reader.required "matched" .bool entries
    <*> Reader.optional "conditions" (.list ConditionEvidence.read) [] entries

def write (evidence : GroupEvidence) : Value := .object [
  ("group_index", .int evidence.index),
  ("matched", .bool evidence.matched),
  ("conditions", .ofList ConditionEvidence.write evidence.conditions)]

end GroupEvidence

/-- The result of evaluating one rule. -/
structure EvaluationResult where
  ruleId : String
  ruleName : String
  matched : Bool
  matchedGroups : List Int := []
  actions : List Action := []
  /-- The evidence of all groups, given only when the rule matched. -/
  evidence : Option (List GroupEvidence) := none

namespace EvaluationResult

def read : Reader EvaluationResult := .record fun entries =>
  mk <$> Reader.required "rule_id" .string entries
    <*> Reader.required "rule_name" .string entries
    <*> Reader.required "matched" .bool entries
    <*> Reader.optional "matched_groups" (.list .int) [] entries
    <*> Reader.optional "actions" (.list Action.read) [] entries
    <*> Reader.optional "evidence" (.nullable (.list GroupEvidence.read)) none entries

def write (result : EvaluationResult) : Value := .object [
  ("rule_id", .str result.ruleId),
  ("rule_name", .str result.ruleName),
  ("matched", .bool result.matched),
  ("matched_groups", .ofList .int result.matchedGroups),
  ("actions", .ofList Action.write result.actions),
  ("evidence", .ofOption (.ofList GroupEvidence.write) result.evidence)]

/-- The result of a rule that did not match. -/
def unmatched (rule : Rule) : EvaluationResult :=
  { ruleId := rule.id, ruleName := rule.name, matched := false }

end EvaluationResult

end PlaybackRules
