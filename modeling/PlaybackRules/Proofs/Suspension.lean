import PlaybackRules.Evaluation.Work
import PlaybackRules.Proofs.Unreadable
import PlaybackRules.Proofs.Walk

/-!
# Evaluation that can be suspended

The evaluation of a rule is one computation that may give up its turn, and go on when the turn is
given back (`Resumable`), like any work that is run at once or waited for (`Work.runAtOnce_eq`,
`Work.complete_resumable`).  Its walk over the groups is the same for either mode and for any way of
evaluating a group (`Rule.core`).  Waiting gives the turn back until the walk is complete; without
waiting there is one turn only, and a walk that gives it up is abandoned for a result without a
match (`Rule.evaluateAtOnce`).  The two are what `Engine.evaluateRule` computes in its two modes
(`Engine.evaluateRule_async`, `Engine.evaluateRule_sync`).

Without waiting, an engine that does not give up the turn by itself never gives it up
(`Engine.suspends_core`).  However groups are evaluated, one turn is enough for a result: no match
as soon as some group gives up the turn (`Rule.outcome_evaluateAtOnce_of_suspends`).
-/

namespace PlaybackRules

/-! ## Computations that give up their turn -/

namespace Resumable

variable {α β : Type}

/-- The computation with events in front. -/
def after (events : List Event) : Resumable α → Resumable α
  | finished run => finished { run with events := events ++ run.events }
  | suspended before rest => suspended (events ++ before) rest

/-- Goes on with the result. -/
def andThen : Resumable α → (α → Resumable β) → Resumable β
  | finished run, f =>
    match run.outcome with
    | .ok a => (f a).after run.events
    | .error failure => finished { outcome := .error failure, events := run.events }
  | suspended before rest, f => suspended before (rest.andThen f)

instance : Monad Resumable where
  pure a := finished (.done a)
  bind := andThen

/-- The whole computation, with the turn given back as often as it is given up. -/
def complete : Resumable α → Journaled α
  | finished run => run
  | suspended before rest => do
    Journaled.emit before
    rest.complete

/-- Does the computation give up its first turn? -/
def suspends : Resumable α → Bool
  | finished _ => false
  | suspended .. => true

theorem complete_suspended (before : List Event) (rest : Resumable α) :
    (suspended before rest).complete = Journaled.emit before >>= fun _ => rest.complete := rfl

theorem complete_after (events : List Event) (x : Resumable α) :
    (x.after events).complete = Journaled.emit events >>= fun _ => x.complete := by
  cases x with
  | finished run => rfl
  | suspended before rest =>
      have hemit : Journaled.emit (events ++ before) =
          Journaled.emit events >>= fun _ => Journaled.emit before := rfl
      rw [after, complete_suspended, complete_suspended, hemit, bind_assoc]

theorem complete_bind (f : α → Resumable β) : ∀ x : Resumable α,
    (x >>= f).complete = x.complete >>= fun a => (f a).complete
  | finished ⟨.ok a, events⟩ => complete_after events (f a)
  | finished ⟨.error _, _⟩ => rfl
  | suspended before rest => by
      have hrest := complete_bind f rest
      show (suspended before (rest >>= f)).complete = _
      rw [complete_suspended, complete_suspended, hrest, bind_assoc]

theorem suspends_after (events : List Event) (x : Resumable α) :
    (x.after events).suspends = x.suspends := by
  cases x <;> rfl

theorem suspends_bind {x : Resumable α} {f : α → Resumable β} (hx : x.suspends = false)
    (hf : ∀ a, (f a).suspends = false) : (x >>= f).suspends = false := by
  match x with
  | finished ⟨.ok a, events⟩ => exact (suspends_after events (f a)).trans (hf a)
  | finished ⟨.error _, _⟩ => rfl
  | suspended .. => exact absurd hx Bool.noConfusion

theorem once_after (events : List Event) (x : Resumable α) :
    (x.after events).once = Journaled.emit events >>= fun _ => x.once := by
  cases x <;> rfl

theorem once_bind (x : Resumable α) (f : α → Resumable β) :
    (x >>= f).once = x.once >>= fun a => (f a).once := by
  match x with
  | finished ⟨.ok a, events⟩ => exact once_after events (f a)
  | finished ⟨.error _, _⟩ => rfl
  | suspended .. => rfl

/-- Does the first turn end with a failure? -/
def fails : Resumable α → Bool
  | finished { outcome := .error _, .. } => true
  | _ => false

theorem ends_once_of_suspends {P : α → Prop} {x : Resumable α} (h : x.suspends = true) :
    x.once.Ends .suspended P := by
  cases x with
  | finished run => exact absurd h Bool.noConfusion
  | suspended before rest => exact rfl

theorem ends_once_of_not_fails {x : Resumable α} (h : x.fails = false) :
    x.once.Ends .suspended fun _ => True := by
  match x with
  | finished ⟨.ok a, events⟩ => trivial
  | finished ⟨.error _, _⟩ => exact absurd h Bool.noConfusion
  | suspended .. => exact rfl

/-- One turn is enough for a computation that does not give it up. -/
theorem once_of_not_suspends {x : Resumable α} (h : x.suspends = false) : x.once = x.complete := by
  cases x with
  | finished run => rfl
  | suspended => exact absurd h Bool.noConfusion

end Resumable

namespace Work

variable {α : Type}

/-- Run at once, work comes to its outcome only if it does not give up its turn. -/
theorem runAtOnce_eq (work : Work α) :
    work.runAtOnce = if work.turns = 0 then work.outcome else .error .suspended := by
  obtain ⟨turns, outcome⟩ := work
  cases turns <;> rfl

/-- With the turn given back as often as it is given up, work always comes to its outcome. -/
theorem complete_resumable : ∀ work : Work α,
    work.resumable.complete = { outcome := work.outcome }
  | ⟨0, _⟩ => rfl
  | ⟨turns + 1, outcome⟩ => by
      have hrest := complete_resumable ⟨turns, outcome⟩
      show (Resumable.suspended [] (Work.resumable ⟨turns, outcome⟩)).complete = _
      rw [Resumable.complete_suspended, hrest]
      rfl

end Work

/-! ## The walk over the groups of a rule -/

section Core

/-- A way of evaluating groups: does the group hold, and what is the evidence of its conditions? -/
abbrev GroupEvaluation := ConditionGroup → Resumable (Bool × List ConditionEvidence)

variable (evaluate : GroupEvaluation)

/-- Evaluates groups up to the first that does not hold. -/
def RuleConditions.walk : Nat → RuleConditions → Resumable (Option (List GroupEvidence))
  | _, [] => return some []
  | index, group :: groups => do
    let (holds, conditions) ← evaluate group
    if holds then
      let rest ← walk (index + 1) groups
      return rest.map ({ index, matched := true, conditions } :: ·)
    else return none

/-- The result of a rule, before it is recorded. -/
def Rule.core (rule : Rule) : Resumable EvaluationResult :=
  match rule.conditions with
  | none => return .unmatched rule
  | some groups => do
    match ← groups.walk evaluate 0 with
    | some evidence => return .ofEvidence rule evidence
    | none => return .unmatched rule

end Core

/-- The result of a run, and no match in place of a run that was abandoned. -/
def Rule.orUnmatched (rule : Rule) (run : Journaled EvaluationResult) :
    Journaled EvaluationResult :=
  match run.outcome with
  | .error .suspended =>
    { outcome := .ok (.unmatched rule), events := run.events ++ [.logged (.suspended rule.id)] }
  | _ => run

theorem Rule.orUnmatched_eq {run : Journaled EvaluationResult} (rule : Rule)
    (h : run.outcome ≠ .error .suspended) : rule.orUnmatched run = run := by
  unfold orUnmatched
  split
  · exact absurd ‹_› h
  · rfl

/-- Evaluates a rule within one turn. -/
def Rule.evaluateAtOnce (config : Configuration) (rule : Rule)
    (core : Resumable EvaluationResult) : Journaled EvaluationResult := do
  let result ← rule.orUnmatched core.once
  result.record config .sync
  return result

/-- Evaluates a rule and waits for it to be complete. -/
def Rule.evaluateWaiting (config : Configuration) (core : Resumable EvaluationResult) :
    Journaled EvaluationResult := do
  let result ← core.complete
  result.record config .async
  return result

/-! ## The engine's own evaluation of groups -/

namespace Progress

variable (config : Configuration) (ruleId : String)

/-- Takes a number of turns, giving up one before each. -/
def rounds : Nat → List Progress → Resumable (List Progress)
  | 0, progress => return progress
  | count + 1, progress => .suspended [] do
    rounds count (← .finished (Journaled.forEach (turn config ruleId) progress))

/-- Waits for all answers, if there are any to wait for. -/
def gather (progress : List Progress) : Resumable (List ConditionEvidence) :=
  if progress.all isSettled then .finished (Journaled.forEach evidence progress)
  else .suspended [] do
    let begun ← .finished (Journaled.forEach (firstTurn config ruleId) progress)
    let rest := progress.foldl (fun most p => Nat.max most p.turnsLeft) 0
    .finished (Journaled.forEach evidence (← rounds config ruleId rest begun))

theorem complete_rounds : ∀ (count : Nat) (progress : List Progress),
    (rounds config ruleId count progress).complete = turns config ruleId count progress
  | 0, _ => rfl
  | count + 1, progress => by
      have hrest := complete_rounds count
      unfold rounds turns
      rw [Resumable.complete_suspended, Resumable.complete_bind]
      simp only [hrest]
      rfl

theorem complete_gather (progress : List Progress) :
    (gather config ruleId progress).complete = await config ruleId progress := by
  unfold gather
  by_cases h : progress.all isSettled = true
  · rw [if_pos h, await_of_settled ruleId config (List.all_eq_true.1 h)]
    rfl
  · rw [if_neg h, Resumable.complete_suspended, Resumable.complete_bind]
    simp only [Resumable.complete_bind, complete_rounds]
    rfl

end Progress

namespace Engine

variable (engine : Engine) (config : Configuration) (mode : Mode) (context : Context)
  (ruleId : String)

/-- Evaluates a group once its turn has come, and gives up more turns only to wait for answers. -/
def groupBody (group : ConditionGroup) : Resumable (Bool × List ConditionEvidence) := do
  let progress ← .finished (Journaled.forEach (engine.start config context ruleId) group)
  let conditions ← match mode with
    | .sync => .finished (Journaled.forEach (Progress.discard config ruleId) progress)
    | .async => Progress.gather config ruleId progress
  return (groupHolds conditions, conditions)

/-- Evaluates a group, and gives up a turn before that if the engine does so. -/
def groupCore : GroupEvaluation := fun group =>
  if engine.suspends then .suspended [] (engine.groupBody config mode context ruleId group)
  else engine.groupBody config mode context ruleId group

theorem complete_groupCore (group : ConditionGroup) :
    (engine.groupCore config mode context ruleId group).complete =
      (fun conditions => (groupHolds conditions, conditions)) <$>
        engine.evaluateGroup config mode context ruleId group := by
  have hbody : (engine.groupBody config mode context ruleId group).complete = _ :=
    Resumable.complete_bind _ _
  have hcore : (engine.groupCore config mode context ruleId group).complete =
      (engine.groupBody config mode context ruleId group).complete := by
    unfold groupCore
    cases engine.suspends <;> rfl
  unfold evaluateGroup
  rw [hcore, hbody, map_bind]
  congr 1
  funext progress
  cases mode with
  | sync =>
      rw [Resumable.complete_bind, ← bind_pure_comp]
      rfl
  | async =>
      rw [Resumable.complete_bind, Progress.complete_gather, ← bind_pure_comp]
      rfl

theorem complete_walk : ∀ (index : Nat) (groups : RuleConditions),
    (groups.walk (engine.groupCore config mode context ruleId) index).complete =
      engine.evaluateGroups config mode context ruleId index groups
  | _, [] => rfl
  | index, group :: groups => by
      have hrest := complete_walk (index + 1) groups
      unfold RuleConditions.walk evaluateGroups
      rw [Resumable.complete_bind, complete_groupCore, bind_map_left]
      congr 1
      funext conditions
      by_cases h : groupHolds conditions = true
      · simp only [if_pos h, Resumable.complete_bind, hrest]
        rfl
      · simp only [if_neg h]
        rfl

/-- Completing the walk is what an engine computes that is not stuck. -/
theorem complete_core {rule : Rule} (h : engine.isStuck mode (rule.conditions.getD []) = false) :
    (rule.core (engine.groupCore config mode context rule.id)).complete =
      engine.resultOf config mode context rule := by
  unfold Rule.core resultOf
  cases hconditions : rule.conditions with
  | none => rfl
  | some groups =>
      rw [hconditions, Option.getD_some] at h
      simp only [if_neg (ne_true_of_eq_false h), Resumable.complete_bind, complete_walk]
      congr 1
      funext found
      cases found <;> rfl

/-- Without waiting, only an engine that does so by itself gives up the turn. -/
theorem suspends_groupCore (h : engine.suspends = false) (group : ConditionGroup) :
    (engine.groupCore config .sync context ruleId group).suspends = false := by
  unfold groupCore
  rw [h]
  exact Resumable.suspends_bind rfl fun _ => Resumable.suspends_bind rfl fun _ => rfl

end Engine

theorem RuleConditions.suspends_walk {evaluate : GroupEvaluation}
    (h : ∀ group, (evaluate group).suspends = false) : ∀ (index : Nat) (groups : RuleConditions),
    (groups.walk evaluate index).suspends = false
  | _, [] => rfl
  | index, group :: groups => by
      have hrest := suspends_walk h (index + 1) groups
      unfold walk
      refine Resumable.suspends_bind (h group) fun (holds, conditions) => ?_
      cases holds with
      | false => rfl
      | true => exact Resumable.suspends_bind hrest fun _ => rfl

theorem Rule.suspends_core {evaluate : GroupEvaluation}
    (h : ∀ group, (evaluate group).suspends = false) (rule : Rule) :
    (rule.core evaluate).suspends = false := by
  unfold core
  cases rule.conditions with
  | none => rfl
  | some groups =>
      have hwalk := RuleConditions.suspends_walk h 0 groups
      refine Resumable.suspends_bind hwalk fun found => ?_
      cases found <;> rfl

/-! ## The two modes -/

namespace Engine

variable (engine : Engine) (config : Configuration) (context : Context) (rule : Rule)

/-- Waiting gives the turn back until the evaluation is complete. -/
theorem evaluateRule_async :
    engine.evaluateRule config .async (context.withRule rule) = Rule.evaluateWaiting config
      (rule.core (engine.groupCore config .async (context.withRule rule) rule.id)) := by
  unfold Rule.evaluateWaiting
  rw [complete_core _ _ _ _ (by simp [isStuck])]
  rfl

/-- The evaluation of a rule fails for want of settings only, not for a turn that was given up. -/
theorem outcome_resultOf_ne (mode : Mode) :
    (engine.resultOf config mode (context.withRule rule) rule).outcome ≠ .error .suspended := by
  intro hsuspended
  have hends : (engine.evaluateRule config mode (context.withRule rule)).outcome =
      .error .suspended := by
    show (engine.resultOf config mode (context.withRule rule) rule >>= _).outcome = _
    generalize engine.resultOf config mode (context.withRule rule) rule = run at hsuspended ⊢
    obtain ⟨outcome, events⟩ := run
    cases hsuspended
    rfl
  cases config with
  | ok settings =>
      rw [outcome_evaluateRule settings mode context engine rule] at hends
      exact absurd hends nofun
  | error faults =>
      rw [engine.outcome_evaluateRule_unreadable mode context faults rule] at hends
      exact absurd hends nofun

/-- An engine that is not stuck on a rule evaluates it within one turn. -/
theorem suspends_core (h : engine.isStuck .sync (rule.conditions.getD []) = false) :
    (rule.core (engine.groupCore config .sync context rule.id)).suspends = false := by
  cases hsuspends : engine.suspends with
  | false => exact rule.suspends_core (engine.suspends_groupCore config context rule.id hsuspends)
  | true =>
      have hgroups : rule.conditions.getD [] = [] := by simpa [isStuck, hsuspends] using h
      unfold Rule.core
      cases hconditions : rule.conditions with
      | none => rfl
      | some groups =>
          rw [hconditions, Option.getD_some] at hgroups
          rw [hgroups]
          rfl

theorem once_core (h : engine.isStuck .sync (rule.conditions.getD []) = false) :
    (rule.core (engine.groupCore config .sync context rule.id)).once =
      engine.resultOf config .sync context rule := by
  have hsuspends := engine.suspends_core config context rule h
  rw [Resumable.once_of_not_suspends hsuspends, engine.complete_core _ _ _ h]

theorem resultOf_sync :
    engine.resultOf config .sync (context.withRule rule) rule = rule.orUnmatched
      (rule.core (engine.groupCore config .sync (context.withRule rule) rule.id)).once := by
  cases hstuck : engine.isStuck .sync (rule.conditions.getD []) with
  | false =>
      have hne := engine.outcome_resultOf_ne config context rule .sync
      rw [engine.once_core config _ rule hstuck, rule.orUnmatched_eq hne]
  | true =>
      have hsuspends : engine.suspends = true := by simp_all [isStuck]
      unfold Rule.core resultOf
      cases hconditions : rule.conditions with
      | none => simp [hconditions, isStuck] at hstuck
      | some groups =>
          rw [hconditions, Option.getD_some] at hstuck
          cases groups with
          | nil => simp [isStuck] at hstuck
          | cons group groups =>
              simp only [if_pos hstuck, RuleConditions.walk, groupCore, hsuspends, if_true]
              rfl

/-- Without waiting there is one turn. -/
theorem evaluateRule_sync :
    engine.evaluateRule config .sync (context.withRule rule) = rule.evaluateAtOnce config
      (rule.core (engine.groupCore config .sync (context.withRule rule) rule.id)) := by
  unfold Rule.evaluateAtOnce
  rw [← resultOf_sync]
  rfl

end Engine

/-! ## Groups that give up the turn -/

section Groups

variable {evaluate : GroupEvaluation}

/-- A walk on which a group gives up the turn is abandoned, unless it has ended before. -/
theorem RuleConditions.ends_once_walk : ∀ (index : Nat) {groups : RuleConditions},
    (∀ group ∈ groups, (evaluate group).fails = false) →
    (∃ group ∈ groups, (evaluate group).suspends = true) →
    (groups.walk evaluate index).once.Ends .suspended (· = none)
  | _, [], _, hsuspends => absurd hsuspends (by simp)
  | index, group :: groups, hfails, hsuspends => by
      have hcalm := hfails group (List.mem_cons_self ..)
      unfold walk
      rw [Resumable.once_bind]
      cases hgroup : (evaluate group).suspends with
      | true =>
          have hnever : (evaluate group).once.Ends .suspended fun _ => False :=
            Resumable.ends_once_of_suspends hgroup
          exact hnever.bind fun _ h => h.elim
      | false =>
          have hlater : ∃ other ∈ groups, (evaluate other).suspends = true := by
            simpa [hgroup] using hsuspends
          have hrest := ends_once_walk (index + 1)
            (fun other hother => hfails other (List.mem_cons_of_mem group hother)) hlater
          refine (Resumable.ends_once_of_not_fails hcalm).bind fun (holds, conditions) _ => ?_
          cases holds with
          | false => exact rfl
          | true =>
              simp only [if_true]
              rw [Resumable.once_bind]
              exact hrest.bind fun rest hnone => congrArg _ hnone

theorem Rule.ends_once_core {rule : Rule} {groups : RuleConditions}
    (hgroups : rule.conditions = some groups)
    (hfails : ∀ group ∈ groups, (evaluate group).fails = false)
    (hsuspends : ∃ group ∈ groups, (evaluate group).suspends = true) :
    (rule.core evaluate).once.Ends .suspended (· = .unmatched rule) := by
  have hwalk := RuleConditions.ends_once_walk 0 hfails hsuspends
  unfold core
  rw [hgroups]
  simp only [Resumable.once_bind]
  refine hwalk.bind fun found hnone => ?_
  rw [hnone]
  exact rfl

variable (settings : Settings)

theorem Rule.outcome_evaluateAtOnce (rule : Rule) (core : Resumable EvaluationResult) :
    (rule.evaluateAtOnce (.ok settings) core).outcome = (rule.orUnmatched core.once).outcome := by
  unfold evaluateAtOnce
  simp only [EvaluationResult.record_ok]
  generalize rule.orUnmatched core.once = run
  obtain ⟨outcome, events⟩ := run
  cases outcome <;> rfl

theorem Rule.outcome_orUnmatched {rule : Rule} {run : Journaled EvaluationResult}
    (h : run.Ends .suspended (· = .unmatched rule)) :
    (rule.orUnmatched run).outcome = .ok (.unmatched rule) := by
  obtain ⟨outcome, events⟩ := run
  cases outcome with
  | ok result => exact congrArg _ h
  | error reason =>
      obtain rfl : reason = .suspended := h
      rfl

/-- A rule does not match within one turn if one of its groups gives up the turn. -/
theorem Rule.outcome_evaluateAtOnce_of_suspends {rule : Rule} {groups : RuleConditions}
    (hgroups : rule.conditions = some groups)
    (hfails : ∀ group ∈ groups, (evaluate group).fails = false)
    (hsuspends : ∃ group ∈ groups, (evaluate group).suspends = true) :
    (rule.evaluateAtOnce (.ok settings) (rule.core evaluate)).outcome = .ok (.unmatched rule) := by
  have hcore := rule.ends_once_core hgroups hfails hsuspends
  rw [Rule.outcome_evaluateAtOnce]
  exact rule.outcome_orUnmatched hcore

/-- A rule without groups matches, however groups are evaluated. -/
theorem Rule.outcome_evaluateAtOnce_nil {rule : Rule} (hgroups : rule.conditions = some []) :
    (rule.evaluateAtOnce (.ok settings) (rule.core evaluate)).outcome =
      .ok (.ofEvidence rule []) := by
  rw [Rule.outcome_evaluateAtOnce]
  unfold Rule.core
  rw [hgroups]
  rfl

end Groups

end PlaybackRules
