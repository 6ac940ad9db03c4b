import PlaybackRules.Proofs.Verdict
import PlaybackRules.Evaluation.Rule

/-!
# Evaluation without settings

Where the settings cannot be read, an evaluation ends for that reason and no other: at the first
condition that fails closed or, at the latest, when the result is recorded, in either case with the
faults of the settings (`Engine.outcome_evaluateRule_unreadable`).
`Journaled.Ends` is the rule for single steps: a step comes to a result with some property, or ends
with one given failure.
-/

namespace PlaybackRules

/-! ## Computations that can end with one failure only -/

namespace Journaled

variable {α β : Type} {failure : Failure}

/-- A computation comes to a result with a property, or ends with the given failure. -/
def Ends (failure : Failure) (P : α → Prop) (x : Journaled α) : Prop :=
  match x.outcome with
  | .ok a => P a
  | .error reason => reason = failure

theorem Ends.bind {P : α → Prop} {Q : β → Prop} {x : Journaled α} {f : α → Journaled β}
    (hx : x.Ends failure P) (hf : ∀ a, P a → (f a).Ends failure Q) :
    (x >>= f).Ends failure Q := by
  obtain ⟨outcome, events⟩ := x
  cases outcome with
  | error reason => exact hx
  | ok a => exact hf a hx

theorem Ends.mono {P Q : α → Prop} {x : Journaled α} (hx : x.Ends failure P)
    (h : ∀ a, P a → Q a) : x.Ends failure Q := by
  obtain ⟨outcome, events⟩ := x
  cases outcome with
  | error reason => exact hx
  | ok a => exact h a hx

theorem ends_emit (events : List Event) : (emit events).Ends failure fun _ => True := trivial

theorem ends_forEach {P : α → Prop} {Q : β → Prop} {f : α → Journaled β}
    (hf : ∀ a, P a → (f a).Ends failure Q) :
    ∀ {as : List α}, (∀ a ∈ as, P a) → (forEach f as).Ends failure fun bs => ∀ b ∈ bs, Q b
  | [], _ => nofun
  | a :: as, h => by
      have hhead := hf a (h a (List.mem_cons_self ..))
      have htail := ends_forEach hf fun other hother => h other (List.mem_cons_of_mem a hother)
      rw [forEach_cons]
      exact hhead.bind fun b hb => htail.bind fun bs hbs => List.forall_mem_cons.2 ⟨hb, hbs⟩

end Journaled

/-! ## Conditions -/

variable {faults : List Fault} (ruleId : String)

theorem Condition.ends_close {P : ConditionEvidence → Prop} (condition : Condition)
    (closing : Closing) :
    (condition.close (.error faults) ruleId closing).Ends (.settings faults) P := rfl

theorem Condition.ends_conclude (condition : Condition) (outcome : Outcome) :
    (condition.conclude (.error faults) ruleId outcome).Ends (.settings faults) fun _ => True := by
  unfold Condition.conclude
  cases outcome.judge condition with
  | ok evidence => trivial
  | error closing => exact condition.ends_close ruleId closing

namespace Progress

/-- A condition is not settled by any failure but the given one. -/
def IsSound (failure : Failure) : Progress → Prop
  | settled (.error reason) => reason = failure
  | _ => True

theorem ends_conclude_settled (condition : Condition) (outcome : Outcome) (event : Event) :
    (do
      Journaled.emit [event]
      settled <$> (condition.conclude (.error faults) ruleId outcome).attempt).Ends
        (.settings faults) (IsSound (.settings faults)) := by
  refine (Journaled.ends_emit [event]).bind fun _ _ => ?_
  have hconclude : (condition.conclude (.error faults) ruleId outcome).Ends (.settings faults)
      fun _ => True := condition.ends_conclude ruleId outcome
  show IsSound _ (settled (condition.conclude (.error faults) ruleId outcome).outcome)
  unfold Journaled.Ends at hconclude
  cases houtcome : (condition.conclude (.error faults) ruleId outcome).outcome with
  | ok evidence => trivial
  | error reason =>
      rw [houtcome] at hconclude
      exact hconclude

theorem ends_turn (progress : Progress) (h : progress.IsSound (.settings faults)) :
    (progress.turn (.error faults) ruleId).Ends (.settings faults)
      (IsSound (.settings faults)) := by
  rcases progress with evidence | ⟨condition, ⟨turns, outcome⟩ | ⟨turns, outcome⟩⟩
  · exact h
  all_goals
    cases turns with
    | succ turns => trivial
    | zero => exact ends_conclude_settled ruleId condition outcome _

theorem ends_firstTurn (progress : Progress) (h : progress.IsSound (.settings faults)) :
    (progress.firstTurn (.error faults) ruleId).Ends (.settings faults)
      (IsSound (.settings faults)) := by
  have hturn := progress.ends_turn ruleId h
  rcases progress with evidence | ⟨condition, task | promise⟩
  · exact hturn
  · exact (Journaled.ends_emit [.began condition]).bind fun _ _ => hturn
  · exact hturn

theorem ends_turns : ∀ (count : Nat) {progress : List Progress},
    (∀ p ∈ progress, p.IsSound (.settings faults)) →
      (turns (.error faults) ruleId count progress).Ends (.settings faults)
        fun after => ∀ p ∈ after, p.IsSound (.settings faults)
  | 0, _, h => h
  | count + 1, _, h =>
      (Journaled.ends_forEach (ends_turn ruleId) h).bind fun _ hafter => ends_turns count hafter

theorem ends_evidence {failure : Failure} (progress : Progress) (h : progress.IsSound failure) :
    progress.evidence.Ends failure fun _ => True := by
  rcases progress with ⟨reason | evidence⟩ | ⟨condition, pending⟩
  · exact h
  · trivial
  · trivial

theorem ends_await {progress : List Progress}
    (h : ∀ p ∈ progress, p.IsSound (.settings faults)) :
    (await (.error faults) ruleId progress).Ends (.settings faults) fun _ => True := by
  unfold await
  refine (Journaled.ends_forEach (ends_firstTurn ruleId) h).bind fun begun hbegun => ?_
  refine (ends_turns ruleId _ hbegun).bind fun after hafter => ?_
  exact (Journaled.ends_forEach ends_evidence hafter).mono fun _ _ => trivial

theorem ends_discard (progress : Progress) (h : progress.IsSound (.settings faults)) :
    (progress.discard (.error faults) ruleId).Ends (.settings faults) fun _ => True := by
  rcases progress with evidence | ⟨condition, task | promise⟩
  · exact ends_evidence (settled evidence) h
  · exact condition.ends_close ruleId .pending
  · exact (Journaled.ends_emit [.cancelled condition]).bind fun _ _ =>
      condition.ends_close ruleId .pending

end Progress

/-! ## Groups and rules -/

variable (engine : Engine) (mode : Mode) (context : Context)

theorem Engine.ends_start (condition : Condition) :
    (engine.start (.error faults) context ruleId condition).Ends (.settings faults)
      (Progress.IsSound (.settings faults)) := by
  unfold Engine.start
  cases condition.field.field?.bind engine.registry with
  | none => exact Journaled.Ends.bind (condition.ends_close ruleId .unknownField) fun _ h => h
  | some evaluator =>
      simp only
      refine (Journaled.ends_emit _).bind fun _ _ => ?_
      cases (evaluator _ context condition).answer with
      | now outcome =>
          exact (condition.ends_conclude ruleId outcome).bind fun _ _ => trivial
      | later pending => trivial

theorem Engine.ends_evaluateGroup (group : ConditionGroup) :
    (engine.evaluateGroup (.error faults) mode context ruleId group).Ends (.settings faults)
      fun _ => True := by
  have hstart : (Journaled.forEach (engine.start (.error faults) context ruleId) group).Ends
      (.settings faults) fun progress => ∀ p ∈ progress, p.IsSound (.settings faults) :=
    Journaled.ends_forEach (fun condition _ => engine.ends_start ruleId context condition)
      fun condition (_ : condition ∈ group) => trivial
  unfold Engine.evaluateGroup
  refine hstart.bind fun progress hprogress => ?_
  cases mode with
  | async => exact Progress.ends_await ruleId hprogress
  | sync =>
      have hdiscard := Journaled.ends_forEach (Progress.ends_discard ruleId) hprogress
      exact hdiscard.mono fun _ _ => trivial

theorem Engine.ends_evaluateGroups : ∀ (index : Nat) (groups : RuleConditions),
    (engine.evaluateGroups (.error faults) mode context ruleId index groups).Ends
      (.settings faults) fun _ => True
  | _, [] => trivial
  | index, group :: groups => by
      unfold Engine.evaluateGroups
      refine (engine.ends_evaluateGroup ruleId mode context group).bind fun conditions _ => ?_
      by_cases hholds : groupHolds conditions = true
      · rw [if_pos hholds]
        exact (Engine.ends_evaluateGroups (index + 1) groups).bind fun _ _ => trivial
      · rw [if_neg hholds]
        trivial

theorem Engine.ends_resultOf (rule : Rule) :
    (engine.resultOf (.error faults) mode context rule).Ends (.settings faults)
      fun _ => True := by
  unfold Engine.resultOf
  cases rule.conditions with
  | none => trivial
  | some groups =>
      by_cases hstuck : engine.isStuck mode groups = true
      · simp only [if_pos hstuck]
        trivial
      · simp only [if_neg hstuck]
        refine (engine.ends_evaluateGroups rule.id mode context 0 groups).bind fun evidence _ => ?_
        cases evidence <;> trivial

/-- Without settings, no rule comes to a result, whatever its conditions. -/
theorem Engine.outcome_evaluateRule_unreadable (faults : List Fault) (rule : Rule) :
    (engine.evaluateRule (.error faults) mode (context.withRule rule)).outcome =
      .error (.settings faults) := by
  have hnone : (engine.evaluateRule (.error faults) mode (context.withRule rule)).Ends
      (.settings faults) fun _ => False :=
    (engine.ends_resultOf mode (context.withRule rule) rule).bind fun result _ => rfl
  unfold Journaled.Ends at hnone
  cases houtcome : (engine.evaluateRule (.error faults) mode (context.withRule rule)).outcome with
  | ok result =>
      rw [houtcome] at hnone
      exact hnone.elim
  | error reason =>
      rw [houtcome] at hnone
      rw [show reason = .settings faults from hnone]

end PlaybackRules
