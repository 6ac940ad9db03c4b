import PlaybackRules.Evaluation.Group
import PlaybackRules.Proofs.Journal

/-!
# The verdict on a condition

What a condition comes to is settled by its own evaluator alone: by the outcome that the mode gets
out of its answer, or by the reason for which there is none.  `Registry.verdict` says it without any
event, and the rules `Condition.close_ok`, `Condition.conclude_ok`, `Registry.discard_started` and
`Engine.start_ok` say that every step of an evaluation under valid settings gives the evidence of
the verdict, and exactly the events that go with it.
-/

namespace PlaybackRules

/-! ## Outcomes and verdicts -/

/-- The outcome that comes of a pending answer in the end. -/
def Pending.outcome : Pending → Outcome
  | task _ outcome => outcome
  | promise _ outcome => outcome

/-- The outcome that a mode gets out of an answer: without waiting, none out of a pending one. -/
def Answer.outcome? (mode : Mode) : Answer → Option Outcome
  | now outcome => some outcome
  | later pending =>
    match mode with
    | .sync => none
    | .async => some pending.outcome

/-- The call of the evaluator for the field of a condition, if there is one. -/
def Registry.call? (registry : Registry) (settings : Settings) (context : Context)
    (condition : Condition) : Option Call :=
  (condition.field.field?.bind registry).map fun evaluator =>
    evaluator (.ok settings.defaultWindow) context condition

/-- The evidence that the call of a condition's evaluator comes to, or why there is none. -/
def Call.verdict (mode : Mode) (condition : Condition) (call : Call) :
    Except Closing ConditionEvidence :=
  match call.answer.outcome? mode with
  | some outcome => outcome.judge condition
  | none => .error .pending

/-- The evidence that a condition comes to, or why it fails closed. -/
def Registry.verdict (registry : Registry) (settings : Settings) (mode : Mode) (context : Context)
    (condition : Condition) : Except Closing ConditionEvidence :=
  match registry.call? settings context condition with
  | some call => call.verdict mode condition
  | none => .error .unknownField

/-- The evidence under a verdict: the one that was found, or that of a failure. -/
def Condition.underVerdict (condition : Condition) :
    Except Closing ConditionEvidence → ConditionEvidence
  | .ok evidence => evidence
  | .error _ => condition.closed

/-- The evidence of a condition. -/
def Registry.evidence (registry : Registry) (settings : Settings) (mode : Mode) (context : Context)
    (condition : Condition) : ConditionEvidence :=
  condition.underVerdict (registry.verdict settings mode context condition)

/-- The outcome that a mode gets out of the evaluator of a condition, if there is one. -/
def Registry.outcome? (registry : Registry) (settings : Settings) (mode : Mode) (context : Context)
    (condition : Condition) : Option Outcome :=
  (registry.call? settings context condition).bind fun call => call.answer.outcome? mode

theorem Registry.evidence_eq (registry : Registry) (settings : Settings) (mode : Mode)
    (context : Context) (condition : Condition) :
    registry.evidence settings mode context condition =
      (registry.outcome? settings mode context condition).elim condition.closed fun outcome =>
        condition.underVerdict (outcome.judge condition) := by
  unfold Registry.evidence Registry.verdict Registry.outcome?
  cases registry.call? settings context condition with
  | none => rfl
  | some call =>
      simp only [Option.bind_some, Call.verdict]
      cases call.answer.outcome? mode <;> rfl

theorem Report.evidence?_eq_some {report : Report} {condition : Condition}
    {evidence : ConditionEvidence} (h : report.evidence? condition = some evidence) :
    ∃ related details, evidence =
      { field := condition.field.text, operator := condition.operator,
        threshold := condition.threshold, actual := report.actual,
        matched := report.matched.isTruthy, related, details } := by
  unfold Report.evidence? at h
  simp only [Option.bind_eq_bind, Option.pure_def, Option.bind_eq_some_iff] at h
  obtain ⟨related, -, details, -, heq⟩ := h
  exact ⟨related, details, (Option.some.inj heq).symm⟩

/-! ## The events that go with a verdict -/

/-- What is recorded of a condition under a verdict: nothing, or that it failed closed. -/
def Condition.failureEvents (settings : Settings) (ruleId : String) (condition : Condition) :
    Except Closing ConditionEvidence → List Event
  | .ok _ => []
  | .error closing =>
    .logged (closing.entry condition.field.text ruleId) ::
      if settings.metricsEnabled then [.failed closing.reason] else []

/-- The arrival of a pending answer. -/
def Pending.arrival (condition : Condition) : Pending → Event
  | task .. => .ended condition
  | promise .. => .fulfilled condition

/-- The beginning of a pending answer that is waited for; a promise needs nobody to begin it. -/
def Pending.beginning (condition : Condition) : Pending → List Event
  | task .. => [.began condition]
  | promise .. => []

/-- The end of a pending answer that nobody waits for. -/
def Pending.dismissal (condition : Condition) : Pending → List Event
  | task .. => []
  | promise .. => [.cancelled condition]

/-- What happens when the evaluator of a condition is called. -/
def Registry.startEvents (registry : Registry) (settings : Settings) (context : Context)
    (ruleId : String) (condition : Condition) : List Event :=
  match registry.call? settings context condition with
  | none => condition.failureEvents settings ruleId (.error .unknownField)
  | some call =>
    .invoked condition :: call.asked.map .asked ++
      match call.answer with
      | .now outcome => condition.failureEvents settings ruleId (outcome.judge condition)
      | .later _ => []

/-- What happens to a condition after its evaluator has been called. -/
def Registry.settleEvents (registry : Registry) (settings : Settings) (mode : Mode)
    (context : Context) (ruleId : String) (condition : Condition) : List Event :=
  match registry.call? settings context condition with
  | some { answer := .later pending, .. } =>
    match mode with
    | .sync => pending.dismissal condition ++
        condition.failureEvents settings ruleId (.error .pending)
    | .async => pending.beginning condition ++ pending.arrival condition ::
        condition.failureEvents settings ruleId (pending.outcome.judge condition)
  | _ => []

/-! ## Steps of an evaluation -/

variable (settings : Settings) (ruleId : String)

theorem Condition.close_ok (condition : Condition) (closing : Closing) :
    condition.close (.ok settings) ruleId closing =
      ⟨.ok condition.closed, condition.failureEvents settings ruleId (.error closing)⟩ := by
  unfold Condition.close Condition.failureEvents
  by_cases h : settings.metricsEnabled = true <;> simp [h, Journaled.settings_ok]

theorem Condition.conclude_ok (condition : Condition) (outcome : Outcome) :
    condition.conclude (.ok settings) ruleId outcome =
      ⟨.ok (condition.underVerdict (outcome.judge condition)),
        condition.failureEvents settings ruleId (outcome.judge condition)⟩ := by
  unfold Condition.conclude
  cases outcome.judge condition with
  | ok evidence => rfl
  | error closing => exact condition.close_ok settings ruleId closing

/-- How far a condition is once its evaluator has been called. -/
def Registry.started (registry : Registry) (context : Context) (condition : Condition) : Progress :=
  match registry.call? settings context condition with
  | none => .settled (.ok condition.closed)
  | some call =>
    match call.answer with
    | .now outcome => .settled (.ok (condition.underVerdict (outcome.judge condition)))
    | .later pending => .waiting condition pending

theorem Engine.start_ok (engine : Engine) (context : Context) (condition : Condition) :
    engine.start (.ok settings) context ruleId condition =
      ⟨.ok (engine.registry.started settings context condition),
        engine.registry.startEvents settings context ruleId condition⟩ := by
  unfold Engine.start Registry.started Registry.startEvents Registry.call?
  cases condition.field.field?.bind engine.registry with
  | none => simp [Condition.close_ok]
  | some evaluator =>
      simp only [Option.map_some, Configuration.defaultWindow]
      cases (evaluator (.ok settings.defaultWindow) context condition).answer with
      | now outcome => simp [Condition.conclude_ok]
      | later pending => simp

theorem Registry.discard_started (registry : Registry) (context : Context)
    (condition : Condition) :
    (registry.started settings context condition).discard (.ok settings) ruleId =
      ⟨.ok (registry.evidence settings .sync context condition),
        registry.settleEvents settings .sync context ruleId condition⟩ := by
  unfold Registry.started Registry.evidence Registry.verdict Registry.settleEvents
  cases registry.call? settings context condition with
  | none => rfl
  | some call =>
      obtain ⟨asked, answer⟩ := call
      cases answer with
      | now outcome => rfl
      | later pending =>
          cases pending <;> simp [Progress.discard, Condition.close_ok, Call.verdict,
            Answer.outcome?, Pending.dismissal, Condition.underVerdict]

/-! ## The plainest context -/

/-- The first midnight of the calendar, in UTC. -/
def Moment.first : Moment := ⟨(CivilTime.ofSeconds? 0 0).get rfl, .utc⟩

/-- A context in which a single session has just begun. -/
def Context.lone : Context where
  session := { id := "session", userId := "user", startedAt := .first }
  user := { id := "user", createdAt := .first }
  server := { id := "server" }
  now := .first

end PlaybackRules
