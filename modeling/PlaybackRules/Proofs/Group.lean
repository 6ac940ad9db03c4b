import Mathlib.Data.List.Perm.Basic
import PlaybackRules.Proofs.Waiting

/-!
# What happens in a group

Evaluating a group under valid settings always succeeds.  It gives the evidence of every condition
in order; first all evaluators are called in order, then the pending answers are settled in some
interleaving (`Engine.evaluateGroup_ok`).  So the calls are those of the conditions in order
(`Engine.invoked_group`), and what is recorded are the failures among the verdicts, in an order that
depends on the interleaving alone (`Engine.recorded_group`).
-/

namespace PlaybackRules

variable (settings : Settings) (mode : Mode) (context : Context) (ruleId : String)

theorem Registry.final_started (registry : Registry) (condition : Condition) :
    (registry.started settings context condition).final =
      .ok (registry.evidence settings .async context condition) := by
  unfold Registry.started Registry.evidence Registry.verdict
  cases registry.call? settings context condition with
  | none => rfl
  | some call =>
      obtain ⟨asked, answer⟩ := call
      cases answer <;> rfl

theorem Registry.dueFromStart_started (registry : Registry) (condition : Condition) :
    (registry.started settings context condition).dueFromStart settings ruleId =
      registry.settleEvents settings .async context ruleId condition := by
  unfold Registry.started Registry.settleEvents
  cases registry.call? settings context condition with
  | none => rfl
  | some call =>
      obtain ⟨asked, answer⟩ := call
      cases answer <;> rfl

/-- All evaluators of a group are called in order, then their answers are settled. -/
theorem Engine.evaluateGroup_ok (engine : Engine) (group : ConditionGroup) : ∃ settling,
    engine.evaluateGroup (.ok settings) mode context ruleId group =
      ⟨.ok (group.map (engine.registry.evidence settings mode context)),
        group.flatMap (engine.registry.startEvents settings context ruleId) ++ settling⟩ ∧
    Interleaving (group.map (engine.registry.settleEvents settings mode context ruleId))
      settling := by
  have hstart : Journaled.forEach (engine.start (.ok settings) context ruleId) group = _ :=
    Journaled.forEach_eq fun condition _ => engine.start_ok settings ruleId context condition
  unfold Engine.evaluateGroup
  rw [hstart, Journaled.ok_bind]
  cases mode with
  | sync =>
      refine ⟨_, ?_, Interleaving.flatten _⟩
      rw [← List.flatMap_def]
      simp only [Journaled.forEach_map]
      rw [Journaled.forEach_eq fun condition _ =>
        engine.registry.discard_started settings ruleId context condition]
  | async =>
      have hfinal : (group.map (engine.registry.started settings context)).map Progress.final =
          (group.map (engine.registry.evidence settings .async context)).map .ok := by
        simp [engine.registry.final_started settings context]
      obtain ⟨settling, hawait, hsettling⟩ := Progress.await_ok settings ruleId hfinal
      refine ⟨settling, ?_, ?_⟩
      · simp only [hawait]
      · simpa [Function.comp_def, engine.registry.dueFromStart_started settings context] using
          hsettling

/-- What happens when a group is evaluated. -/
def Engine.groupEvents (engine : Engine) (group : ConditionGroup) : List Event :=
  (engine.evaluateGroup (.ok settings) mode context ruleId group).events

theorem Engine.evaluateGroup_eq (engine : Engine) (group : ConditionGroup) :
    engine.evaluateGroup (.ok settings) mode context ruleId group =
      ⟨.ok (group.map (engine.registry.evidence settings mode context)),
        engine.groupEvents settings mode context ruleId group⟩ := by
  obtain ⟨settling, hrun, -⟩ := engine.evaluateGroup_ok settings mode context ruleId group
  rw [Engine.groupEvents, hrun]

/-! ## Calls and records -/

/-- The condition whose evaluator is called in an event, if it is a call. -/
def Event.invoked? : Event → Option Condition
  | .invoked condition => some condition
  | _ => none

/-- Is the event logged or counted? -/
def Event.isRecorded : Event → Bool
  | .logged _ => true
  | .failed _ => true
  | .evaluated _ => true
  | .matched _ => true
  | _ => false

/-- Is there an evaluator for the field of a condition? -/
def Registry.covers (registry : Registry) (condition : Condition) : Bool :=
  (condition.field.field?.bind registry).isSome

theorem Condition.invoked_failureEvents (condition : Condition)
    (verdict : Except Closing ConditionEvidence) :
    (condition.failureEvents settings ruleId verdict).filterMap Event.invoked? = [] := by
  cases verdict with
  | ok evidence => rfl
  | error closing =>
      by_cases h : settings.metricsEnabled = true <;>
        simp [Condition.failureEvents, Event.invoked?, h]

theorem Condition.recorded_failureEvents (condition : Condition)
    (verdict : Except Closing ConditionEvidence) :
    (condition.failureEvents settings ruleId verdict).filter Event.isRecorded =
      condition.failureEvents settings ruleId verdict := by
  cases verdict with
  | ok evidence => rfl
  | error closing =>
      by_cases h : settings.metricsEnabled = true <;>
        simp [Condition.failureEvents, Event.isRecorded, h]

theorem Registry.isSome_call? (registry : Registry) (condition : Condition) :
    (registry.call? settings context condition).isSome = registry.covers condition := by
  rw [Registry.call?, Option.isSome_map, Registry.covers]

theorem Registry.invoked_startEvents (registry : Registry) (condition : Condition) :
    (registry.startEvents settings context ruleId condition).filterMap Event.invoked? =
      [condition].filter registry.covers := by
  have hcovers := registry.isSome_call? settings context condition
  unfold Registry.startEvents
  cases hcall : registry.call? settings context condition with
  | none =>
      rw [hcall] at hcovers
      rw [List.filter_cons_of_neg (by simp [← hcovers])]
      exact condition.invoked_failureEvents settings ruleId _
  | some call =>
      rw [hcall] at hcovers
      rw [List.filter_cons_of_pos (by simp [← hcovers])]
      obtain ⟨asked, answer⟩ := call
      have hasked : (asked.map Event.asked).filterMap Event.invoked? = [] := by
        simp [Event.invoked?]
      cases answer <;> simp only [List.cons_append, List.filterMap_cons, List.filterMap_append,
        List.filter_nil, List.append_nil, Event.invoked?, hasked,
        Condition.invoked_failureEvents]

theorem Registry.invoked_settleEvents (registry : Registry) (condition : Condition) :
    (registry.settleEvents settings mode context ruleId condition).filterMap Event.invoked? =
      [] := by
  unfold Registry.settleEvents
  cases registry.call? settings context condition with
  | none => rfl
  | some call =>
      obtain ⟨asked, answer⟩ := call
      cases answer with
      | now outcome => rfl
      | later pending =>
          cases mode <;> cases pending <;> simp only [List.filterMap_append, List.filterMap_cons,
            List.filterMap_nil, List.nil_append, Event.invoked?, Pending.dismissal,
            Pending.beginning, Pending.arrival, Condition.invoked_failureEvents]

/-- What is recorded of a condition is what goes with its verdict. -/
theorem Registry.recorded_events (registry : Registry) (condition : Condition) :
    (registry.startEvents settings context ruleId condition ++
      registry.settleEvents settings mode context ruleId condition).filter Event.isRecorded =
    condition.failureEvents settings ruleId
      (registry.verdict settings mode context condition) := by
  unfold Registry.startEvents Registry.settleEvents Registry.verdict
  cases registry.call? settings context condition with
  | none => simp [Condition.recorded_failureEvents]
  | some call =>
      obtain ⟨asked, answer⟩ := call
      have hasked : (asked.map Event.asked).filter Event.isRecorded = [] := by
        simp [List.filter_map, Event.isRecorded, Function.comp_def]
      cases answer with
      | now outcome =>
          simp [hasked, Condition.recorded_failureEvents, Call.verdict, Answer.outcome?,
            Event.isRecorded]
      | later pending =>
          cases mode <;> cases pending <;>
            simp [hasked, Condition.recorded_failureEvents, Call.verdict, Answer.outcome?,
              Pending.dismissal, Pending.beginning, Pending.arrival, Event.isRecorded]

/-- Every evaluator of a group is called, in order. -/
theorem Engine.invoked_group (engine : Engine) (group : ConditionGroup) :
    (engine.groupEvents settings mode context ruleId group).filterMap Event.invoked? =
      group.filter engine.registry.covers := by
  obtain ⟨settling, hrun, hsettling⟩ := engine.evaluateGroup_ok settings mode context ruleId group
  have hnone : settling.filterMap Event.invoked? = [] := by
    have hperm := hsettling.perm.filterMap Event.invoked?
    rw [← List.flatMap_def, List.filterMap_flatMap] at hperm
    rw [List.flatMap_eq_nil_iff.2 fun condition _ =>
      engine.registry.invoked_settleEvents settings mode context ruleId condition] at hperm
    exact hperm.eq_nil
  unfold Engine.groupEvents
  rw [hrun, List.filterMap_append, hnone, List.append_nil, List.filterMap_flatMap]
  simp only [Registry.invoked_startEvents]
  rw [← List.filter_flatMap, List.flatMap_singleton']

/-- What is recorded of a group is what goes with the verdicts on its conditions, in some order. -/
theorem Engine.recorded_group (engine : Engine) (group : ConditionGroup) :
    ((engine.groupEvents settings mode context ruleId group).filter Event.isRecorded).Perm
      (group.flatMap fun condition => condition.failureEvents settings ruleId
        (engine.registry.verdict settings mode context condition)) := by
  obtain ⟨settling, hrun, hsettling⟩ := engine.evaluateGroup_ok settings mode context ruleId group
  have hperm : (engine.groupEvents settings mode context ruleId group).Perm
      (group.flatMap fun condition =>
        engine.registry.startEvents settings context ruleId condition ++
          engine.registry.settleEvents settings mode context ruleId condition) := by
    unfold Engine.groupEvents
    rw [hrun]
    refine List.Perm.trans ?_ (List.flatMap_append_perm group _ _)
    have hsettle := hsettling.perm
    rw [← List.flatMap_def] at hsettle
    exact hsettle.append_left _
  refine (hperm.filter Event.isRecorded).trans ?_
  rw [List.filter_flatMap]
  simp only [Registry.recorded_events, List.Perm.refl]

section View

variable {α : Type} {view : Event → Option α}
  (hview : ∀ event, event.isRecorded = false → view event = none)
include hview

theorem Event.filterMap_recorded (events : List Event) :
    (events.filter Event.isRecorded).filterMap view = events.filterMap view := by
  rw [List.filterMap_filter]
  congr 1
  funext event
  cases hrecorded : event.isRecorded with
  | true => rfl
  | false =>
      rw [hview event hrecorded]
      rfl

/-- What is seen of the records of a group is what is seen of those that go with the verdicts. -/
theorem Engine.view_group (engine : Engine) (group : ConditionGroup) :
    ((engine.groupEvents settings mode context ruleId group).filterMap view).Perm
      (group.flatMap fun condition => (condition.failureEvents settings ruleId
        (engine.registry.verdict settings mode context condition)).filterMap view) := by
  have hperm := (engine.recorded_group settings mode context ruleId group).filterMap view
  rwa [Event.filterMap_recorded hview, List.filterMap_flatMap] at hperm

end View

end PlaybackRules
