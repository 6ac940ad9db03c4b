import PlaybackRules.Evaluation.Journal
import PlaybackRules.Observation.BuiltIn

/-!
# Evaluators

An evaluator answers for one field.  It may answer at once, or with something to wait for: a task
that gives up its turn a number of times before its outcome, or a promise kept elsewhere, which
arrives after a number of turns.  The outcome should be a report; `Outcome.judge` turns it into
evidence, or says why the condition fails closed.

An answer that is waited for comes to an outcome.  Tasks and promises that somebody else cancels in
the meantime end in neither a report nor a failure, and are left out.
-/

namespace PlaybackRules

/-- A report as an evaluator gives it, with values that nobody has checked. -/
structure Report where
  matched : Value
  actual : Value
  related : Value := .null
  details : Value := .null

/-- What an evaluator comes to: a report, some other value, or a failure. -/
inductive Outcome where
  | report (report : Report)
  | other (value : Value)
  | failed (failure : Failure)

/-- An answer to wait for, which nobody else cancels. -/
inductive Pending where
  /-- A task that gives up its turn a number of times. -/
  | task (turns : Nat) (outcome : Outcome)
  /-- An answer that arrives by itself after a number of turns. -/
  | promise (turns : Nat) (outcome : Outcome)

/-- An answer given at once, or one to wait for. -/
inductive Answer where
  | now (outcome : Outcome)
  | later (pending : Pending)

/-- A call of an evaluator: the addresses it asks the context about, and its answer. -/
structure Call where
  asked : List String := []
  answer : Answer

/-- An evaluator, given the default window. -/
abbrev Evaluator := Except Failure Binary64 → Context → Condition → Call

/-- The evaluators of fields. -/
abbrev Registry := Field → Option Evaluator

/-- A finding as a report. -/
def Finding.toReport (finding : Finding) : Report where
  matched := .bool finding.matched
  actual := finding.actual
  related := .ofOption (.ofList .str) finding.related
  details := .ofOption .object finding.details

/-- The built-in evaluator of a field. -/
def Field.evaluator (field : Field) : Evaluator := fun defaultWindow context condition => {
  asked := field.asks context
  answer := .now (match field.observe defaultWindow context condition with
    | .ok finding => .report finding.toReport
    | .error failure => .failed failure) }

/-- The registry with the built-in evaluators of all fields. -/
def Registry.builtIn : Registry := fun field => some field.evaluator

/-! ### Evidence from outcomes -/

/-- The members of a value that can be listed: the characters of a text, the keys of an object. -/
def Value.members? : Value → Option (List Value)
  | str s => some (s.toList.map fun c => str c.toString)
  | list items => some items
  | object entries => some (entries.map fun (key, _) => str key)
  | _ => none

/-- The text, if the value is one. -/
def Value.text? : Value → Option String
  | str s => some s
  | _ => none

/-- The entry that a pair stands for: two members, the first of them a text. -/
def Value.entry? (value : Value) : Option (String × Value) :=
  match value.members? with
  | some [.str key, value] => some (key, value)
  | _ => none

/-- The entries of an object, or of a list of pairs in which a later key wins. -/
def Value.entries? : Value → Option Entries
  | object entries => some entries
  | list items => (items.mapM Value.entry?).map fun pairs =>
      pairs.foldl (fun entries (key, value) => Entries.set entries key value) []
  | _ => none

/-- Reads a part of a report that may be left out; a value that does not count as true is. -/
def Value.part? {α : Type} (read : Value → Option α) (value : Value) : Option (Option α) :=
  if value.isTruthy then (read value).map some else some none

/-- The related sessions of a report. -/
def Report.related? (report : Report) : Option (Option (List String)) :=
  report.related.part? fun value => value.members?.bind (·.mapM Value.text?)

/-- The details of a report. -/
def Report.details? (report : Report) : Option (Option Entries) :=
  report.details.part? Value.entries?

/-- The evidence that a report gives for a condition, unless its parts cannot be read. -/
def Report.evidence? (report : Report) (condition : Condition) : Option ConditionEvidence := do
  let related ← report.related?
  let details ← report.details?
  return {
    field := condition.field.text
    operator := condition.operator
    threshold := condition.threshold
    actual := report.actual
    matched := report.matched.isTruthy
    related, details }

/-- The evidence of a condition that failed closed. -/
def Condition.closed (condition : Condition) : ConditionEvidence where
  field := condition.field.text
  operator := condition.operator
  threshold := condition.threshold
  matched := false

/-- Why a condition fails closed. -/
inductive Closing where
  | unknownField
  | failed (failure : Failure)
  | malformed
  | pending
  deriving DecidableEq, Repr

namespace Closing

/-- The reason under which it is counted. -/
def reason : Closing → Reason
  | unknownField => .unknownField
  | failed _ => .error
  | malformed => .error
  | pending => .pending

/-- What is logged of it. -/
def entry (field ruleId : String) : Closing → Entry
  | unknownField => .noEvaluator field ruleId
  | failed failure => .conditionFailed field ruleId failure
  | malformed => .invalidResult field ruleId
  | pending => .pendingDiscarded field ruleId

end Closing

/-- The evidence from an outcome, or why the condition fails closed. -/
def Outcome.judge (condition : Condition) : Outcome → Except Closing ConditionEvidence
  | report r =>
    match r.evidence? condition with
    | some evidence => .ok evidence
    | none => .error .malformed
  | other _ => .error .malformed
  | failed failure => .error (.failed failure)

end PlaybackRules
