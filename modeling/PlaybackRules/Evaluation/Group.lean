import PlaybackRules.Evaluation.Evaluator

/-!
# Evaluation of a group

All conditions of a group are called in order, and none is left out when another holds, so the
evidence is complete.  Then the pending answers are settled.  Without waiting, they are discarded
and their conditions fail closed.  With waiting, the tasks begin in order and take turns, each
giving up as many turns as it asks for before its outcome is judged, and promises arrive in their
turn.  All of them are waited for, also when judging one comes to a failure, which is handed on at
the end.
-/

namespace PlaybackRules

/-- How rules are evaluated: by which evaluators, and whether evaluating a group gives up its turn
before it starts. -/
structure Engine where
  registry : Registry := .builtIn
  suspends : Bool := false

/-- Records that a condition fails closed, and gives its evidence.  The record comes before the
settings are consulted. -/
def Condition.close (config : Configuration) (ruleId : String) (condition : Condition)
    (closing : Closing) : Journaled ConditionEvidence := do
  Journaled.emit [.logged (closing.entry condition.field.text ruleId)]
  let settings ← Journaled.settings config
  if settings.metricsEnabled then Journaled.emit [.failed closing.reason]
  return condition.closed

/-- The evidence from an outcome; the condition fails closed where there is none. -/
def Condition.conclude (config : Configuration) (ruleId : String) (condition : Condition)
    (outcome : Outcome) : Journaled ConditionEvidence :=
  match outcome.judge condition with
  | .ok evidence => .done evidence
  | .error closing => condition.close config ruleId closing

/-- How far a condition has come: settled, or waiting for an answer. -/
inductive Progress where
  | settled (evidence : Except Failure ConditionEvidence)
  | waiting (condition : Condition) (pending : Pending)

namespace Progress

/-- The evidence of a condition that is settled; one that still waits has none to show. -/
def evidence : Progress → Journaled ConditionEvidence
  | settled (.ok evidence) => .done evidence
  | settled (.error failure) => .fail failure
  | waiting condition _ => .done condition.closed

/-- The turns until the answer is there. -/
def turnsLeft : Progress → Nat
  | settled _ => 0
  | waiting _ (.task turns _) => turns + 1
  | waiting _ (.promise turns _) => turns + 1

/-- Gives up on a pending answer. -/
def discard (config : Configuration) (ruleId : String) : Progress → Journaled ConditionEvidence
  | settled evidence => (settled evidence).evidence
  | waiting condition pending => do
    match pending with
    | .promise .. => Journaled.emit [.cancelled condition]
    | .task .. => pure ()
    condition.close config ruleId .pending

/-- Takes one turn. -/
def turn (config : Configuration) (ruleId : String) : Progress → Journaled Progress
  | settled evidence => .done (settled evidence)
  | waiting condition (.task (turns + 1) outcome) => .done (waiting condition (.task turns outcome))
  | waiting condition (.task 0 outcome) => do
    Journaled.emit [.ended condition]
    settled <$> (condition.conclude config ruleId outcome).attempt
  | waiting condition (.promise (turns + 1) outcome) =>
    .done (waiting condition (.promise turns outcome))
  | waiting condition (.promise 0 outcome) => do
    Journaled.emit [.fulfilled condition]
    settled <$> (condition.conclude config ruleId outcome).attempt

/-- Begins to wait, and takes the first turn. -/
def firstTurn (config : Configuration) (ruleId : String) (progress : Progress) :
    Journaled Progress := do
  match progress with
  | waiting condition (.task ..) => Journaled.emit [.began condition]
  | _ => pure ()
  progress.turn config ruleId

/-- Takes a number of turns, all conditions one after another in each. -/
def turns (config : Configuration) (ruleId : String) :
    Nat → List Progress → Journaled (List Progress)
  | 0, progress => .done progress
  | count + 1, progress => do
    turns config ruleId count (← Journaled.forEach (turn config ruleId) progress)

/-- Waits for all answers. -/
def await (config : Configuration) (ruleId : String) (progress : List Progress) :
    Journaled (List ConditionEvidence) := do
  let rest := progress.foldl (fun most p => Nat.max most p.turnsLeft) 0
  let begun ← Journaled.forEach (firstTurn config ruleId) progress
  Journaled.forEach evidence (← turns config ruleId rest begun)

end Progress

/-- Calls the evaluator of a condition. -/
def Engine.start (engine : Engine) (config : Configuration) (context : Context) (ruleId : String)
    (condition : Condition) : Journaled Progress :=
  match condition.field.field?.bind engine.registry with
  | none => return .settled (.ok (← condition.close config ruleId .unknownField))
  | some evaluator => do
    let call := evaluator config.defaultWindow context condition
    Journaled.emit (.invoked condition :: call.asked.map .asked)
    match call.answer with
    | .now outcome => return .settled (.ok (← condition.conclude config ruleId outcome))
    | .later pending => return .waiting condition pending

/-- The evidence of all conditions of a group. -/
def Engine.evaluateGroup (engine : Engine) (config : Configuration) (mode : Mode)
    (context : Context) (ruleId : String) (group : ConditionGroup) :
    Journaled (List ConditionEvidence) := do
  let progress ← Journaled.forEach (engine.start config context ruleId) group
  match mode with
  | .sync => Journaled.forEach (Progress.discard config ruleId) progress
  | .async => Progress.await config ruleId progress

/-- Does a group hold?  An empty one does, any other if one of its conditions does. -/
def groupHolds (evidence : List ConditionEvidence) : Bool :=
  evidence.isEmpty || evidence.any (·.matched)

end PlaybackRules
