import PlaybackRules.Proofs.Meaning

/-!
# The schedule of an evaluation

The schedule of a run is what it does in order: it calls evaluators, and begins and ends the bodies
that some of them leave to be waited for.  A schedule is orderly when it comes in one segment for
each group, in which all calls come first, in order, and then each body begins once and ends once
after that (`RuleConditions.Orderly`).  Waiting for a rule under valid settings is orderly for the
groups up to and including the first that does not hold, and calls the evaluator of each condition
that has one (`Engine.schedule_orderly`).
-/

namespace PlaybackRules

/-! ## Schedules -/

/-- Is an event part of the schedule: a call, or the beginning or the end of a body? -/
def Event.isScheduled : Event → Bool
  | .invoked _ => true
  | .began _ => true
  | .ended _ => true
  | _ => false

/-- The calls of a run, and the beginnings and ends of bodies, in order. -/
def Journaled.schedule {α : Type} (run : Journaled α) : List Event :=
  run.events.filter Event.isScheduled

/-- The events of the body of a condition, if it has one: it begins, and then it ends. -/
def Condition.body (hasBody : Condition → Bool) (condition : Condition) : List Event :=
  if hasBody condition then [.began condition, .ended condition] else []

/-- The schedule of a group begins with the calls, in order, and after them each body begins and
ends, in any interleaving. -/
def ConditionGroup.Orderly (isCalled hasBody : Condition → Bool) (group : ConditionGroup)
    (schedule : List Event) : Prop :=
  ∃ settling, schedule = (group.filter isCalled).map .invoked ++ settling ∧
    Interleaving (group.map (Condition.body hasBody)) settling

/-- The schedule comes in one segment for each group, in order. -/
def RuleConditions.Orderly (isCalled hasBody : Condition → Bool) (groups : RuleConditions)
    (schedule : List Event) : Prop :=
  ∃ segments : List (List Event), schedule = segments.flatten ∧
    List.Forall₂ (ConditionGroup.Orderly isCalled hasBody) groups segments

/-- Does the evaluator of a condition leave a body to be waited for? -/
def Registry.hasBody (registry : Registry) (settings : Settings) (context : Context)
    (condition : Condition) : Bool :=
  (registry.call? settings context condition).any fun call =>
    match call.answer with
    | .later (.task ..) => true
    | _ => false

theorem RuleConditions.orderly_flatMap {isCalled hasBody : Condition → Bool}
    {schedule : ConditionGroup → List Event}
    (h : ∀ group, ConditionGroup.Orderly isCalled hasBody group (schedule group))
    (groups : RuleConditions) : groups.Orderly isCalled hasBody (groups.flatMap schedule) :=
  ⟨groups.map schedule, List.flatMap_def, List.forall₂_map_right_iff.2 <|
    List.forall₂_same.2 fun group _ => h group⟩

/-- An orderly schedule begins with the calls of the first group. -/
theorem RuleConditions.Orderly.calls_prefix {isCalled hasBody : Condition → Bool}
    {group : ConditionGroup} {groups : RuleConditions} {schedule : List Event}
    (h : RuleConditions.Orderly isCalled hasBody (group :: groups) schedule) :
    (group.filter isCalled).map Event.invoked <+: schedule := by
  obtain ⟨segments, rfl, hsegments⟩ := h
  cases hsegments with
  | @cons _ segment _ rest hfirst hrest =>
      obtain ⟨settling, rfl, -⟩ := hfirst
      rw [List.flatten_cons, List.append_assoc]
      exact List.prefix_append ..

/-! ## What is recorded is not scheduled -/

variable (settings : Settings) (context : Context) (ruleId : String)

theorem Condition.scheduled_failureEvents (condition : Condition)
    (verdict : Except Closing ConditionEvidence) :
    (condition.failureEvents settings ruleId verdict).filter Event.isScheduled = [] := by
  cases verdict with
  | ok evidence => rfl
  | error closing =>
      by_cases h : settings.metricsEnabled = true <;>
        simp [Condition.failureEvents, Event.isScheduled, h]

theorem EvaluationResult.scheduled_recordEvents (mode : Mode) (result : EvaluationResult) :
    (result.recordEvents settings mode).filter Event.isScheduled = [] := by
  unfold EvaluationResult.recordEvents
  by_cases hmetrics : settings.metricsEnabled = true
  · cases hmatched : result.matched <;> simp [hmetrics, Event.isScheduled]
  · simp [hmetrics, Event.isScheduled]

/-! ## One condition -/

theorem Registry.scheduled_startEvents (registry : Registry) (condition : Condition) :
    (registry.startEvents settings context ruleId condition).filter Event.isScheduled =
      ([condition].filter registry.covers).map .invoked := by
  have hcovers := registry.isSome_call? settings context condition
  unfold Registry.startEvents
  cases hcall : registry.call? settings context condition with
  | none =>
      rw [hcall] at hcovers
      rw [List.filter_cons_of_neg (by simp [← hcovers])]
      exact condition.scheduled_failureEvents settings ruleId _
  | some call =>
      rw [hcall] at hcovers
      rw [List.filter_cons_of_pos (by simp [← hcovers])]
      obtain ⟨asked, answer⟩ := call
      have hasked : (asked.map Event.asked).filter Event.isScheduled = [] := by
        simp [Event.isScheduled]
      have hcalled : (Event.invoked condition).isScheduled = true := rfl
      cases answer with
      | now outcome =>
          simp only [List.cons_append, List.filter_cons_of_pos hcalled, List.filter_append, hasked,
            Condition.scheduled_failureEvents]
          rfl
      | later pending =>
          simp only [List.append_nil, List.filter_cons_of_pos hcalled, hasked]
          rfl

theorem Registry.scheduled_settleEvents (registry : Registry) (condition : Condition) :
    (registry.settleEvents settings .async context ruleId condition).filter Event.isScheduled =
      condition.body (registry.hasBody settings context) := by
  unfold Registry.settleEvents Condition.body Registry.hasBody
  cases registry.call? settings context condition with
  | none => rfl
  | some call =>
      obtain ⟨asked, answer⟩ := call
      cases answer with
      | now outcome => rfl
      | later pending =>
          cases pending <;> simp [List.filter_cons, Pending.beginning, Pending.arrival,
            Event.isScheduled, Condition.scheduled_failureEvents]

/-! ## Groups and rules -/

theorem Engine.orderly_groupEvents (engine : Engine) (group : ConditionGroup) :
    group.Orderly engine.registry.covers (engine.registry.hasBody settings context)
      ((engine.groupEvents settings .async context ruleId group).filter Event.isScheduled) := by
  obtain ⟨settling, hrun, hsettling⟩ :=
    engine.evaluateGroup_ok settings .async context ruleId group
  refine ⟨settling.filter Event.isScheduled, ?_, ?_⟩
  · have hcalls : (group.flatMap (engine.registry.startEvents settings context ruleId)).filter
        Event.isScheduled = (group.filter engine.registry.covers).map .invoked := by
      rw [List.filter_flatMap]
      simp only [Registry.scheduled_startEvents]
      rw [← List.map_flatMap, ← List.filter_flatMap, List.flatMap_singleton']
    unfold Engine.groupEvents
    rw [hrun, List.filter_append, hcalls]
  · have hbodies := hsettling.filter Event.isScheduled
    rw [List.map_map] at hbodies
    have hbody : List.filter Event.isScheduled ∘
        engine.registry.settleEvents settings .async context ruleId =
          Condition.body (engine.registry.hasBody settings context) := by
      funext condition
      exact engine.registry.scheduled_settleEvents settings context ruleId condition
    rwa [hbody] at hbodies

/-- Waiting for a rule is orderly.  It visits one group after the other, up to and including the
first that does not hold.  In each it calls the evaluators of the conditions in order, one for every
condition that has one, then each body of that group begins once and ends once, and only then does
it go on to the next group. -/
theorem Engine.schedule_orderly (engine : Engine) (rule : Rule) :
    let run := engine.evaluateRule (.ok settings) .async (context.withRule rule)
    let satisfied := engine.registry.satisfies settings .async (context.withRule rule)
    let visited := (rule.conditions.getD []).reached fun group =>
      group.isEmpty || group.any satisfied
    visited.Orderly engine.registry.covers
      (engine.registry.hasBody settings (context.withRule rule)) run.schedule := by
  intro run satisfied visited
  have hrun : run = _ :=
    engine.evaluateRule_ok settings .async context rule (by simp [Engine.isStuck])
  have hvisited : visited = (rule.conditions.getD []).reached
      (engine.registry.groupHolds settings .async (context.withRule rule)) := by
    rw [Registry.groupHolds_eq]
  have hschedule : run.schedule = visited.flatMap fun group =>
      (engine.groupEvents settings .async (context.withRule rule) rule.id group).filter
        Event.isScheduled := by
    rw [Journaled.schedule, hrun, hvisited, Engine.ruleEvents, List.filter_append,
      EvaluationResult.scheduled_recordEvents, List.append_nil, List.filter_flatMap]
  rw [hschedule]
  exact RuleConditions.orderly_flatMap
    (engine.orderly_groupEvents settings (context.withRule rule) rule.id) visited

/-- A condition without an evaluator is not called.  Where the settings cannot be read, its failure
ends the evaluation, so the evaluators of the conditions after it are not called either. -/
theorem Engine.schedule_not_orderly :
    let unknown : Condition :=
      { field := .unknown "bit_depth", operator := .eq, value := .scalar (.int 10) }
    let direct : Condition :=
      { field := .known .country, operator := .eq, value := .scalar (.str "US") }
    let waiting : Condition :=
      { field := .known .mediaType, operator := .eq, value := .scalar (.str "movie") }
    let registry : Registry := fun field => some fun _ _ _ =>
      { answer :=
          if field = .country then .now (.report { matched := .bool true, actual := .str "US" })
          else .later (.task 1 (.report { matched := .bool true, actual := .str "movie" })) }
    let group : ConditionGroup := [unknown, direct, waiting]
    let rule : Rule := { id := "rule", name := "Rule", conditions := some [group] }
    let unreadable : Configuration :=
      (Settings.read (.object [("metrics_enabled", .str "maybe")])).toExcept
    let schedule (config : Configuration) := (({ registry } : Engine).evaluateRule config .async
      (Context.lone.withRule rule)).schedule
    (∀ hasBody, ¬ RuleConditions.Orderly (fun _ => true) hasBody [group] (schedule (.ok {}))) ∧
    ∀ hasBody, ¬ RuleConditions.Orderly registry.covers hasBody [group] (schedule unreadable) := by
  intro unknown direct waiting registry group rule unreadable schedule
  have hread : schedule (.ok {}) =
      [.invoked direct, .invoked waiting, .began waiting, .ended waiting] := by cbv
  have hunread : schedule unreadable = [] := rfl
  constructor
  · intro hasBody horderly
    have hcalls : [Event.invoked unknown, .invoked direct, .invoked waiting] <+:
        schedule (.ok {}) := horderly.calls_prefix
    rw [hread, List.cons_prefix_cons] at hcalls
    have hcondition : unknown = direct := Event.invoked.inj hcalls.1
    have hfields : unknown.field = direct.field := congrArg Condition.field hcondition
    exact absurd hfields nofun
  · intro hasBody horderly
    have hcalls : [Event.invoked direct, .invoked waiting] <+: schedule unreadable :=
      horderly.calls_prefix
    rw [hunread, List.prefix_nil] at hcalls
    exact absurd hcalls nofun

end PlaybackRules
