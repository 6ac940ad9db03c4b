import PlaybackRules.Proofs.Result
import PlaybackRules.Proofs.RuleSet

/-!
# Independence of the rules in a set

A pass over rules is a filter.  Of the results that the applicable rules have each on its own, it
keeps those that matched, in the order of the rules (`Engine.results_eq_filter`).  So nothing passes
from one rule to another, from the rule that was attached to the context before, or from the trace
state (`Engine.evaluateRules_independent`).
-/

namespace PlaybackRules

variable (engine : Engine) (settings : Settings) (mode : Mode) (context : Context)

theorem Rule.isApplicable_eq (rule : Rule) :
    rule.isApplicable context = (rule.isActive && decide (rule.serverId = none ∨
      rule.serverId = some "" ∨ rule.serverId = some context.server.id)) := by
  unfold Rule.isApplicable Rule.appliesTo
  cases rule.serverId with
  | none => rfl
  | some id => rw [Bool.eq_iff_iff]; simp

/-! ## The pass as a filter -/

theorem Engine.contribution_ok (rule : Rule) :
    engine.contribution (.ok settings) mode context rule =
      if rule.isApplicable context then
        [engine.resultFor settings mode context rule].filter (·.matched)
      else [] := by
  unfold Engine.contribution Engine.passRule
  simp only [engine.outcome_evaluateRule settings mode context rule]
  cases h : (engine.resultFor settings mode context rule).matched <;> simp [h]

/-- The results of a pass are those results of the applicable rules that matched. -/
theorem Engine.results_eq_filter (rules : List Rule) (trace : TraceState) :
    (engine.evaluateRules (.ok settings) mode context rules trace).results =
      ((rules.filter (·.isApplicable context)).map
        (engine.resultFor settings mode context)).filter (·.matched) := by
  rw [engine.results_evaluateRules]
  induction rules with
  | nil => rfl
  | cons rule rules ih =>
      rw [List.flatMap_cons, ih, engine.contribution_ok]
      cases happlicable : rule.isApplicable context with
      | false =>
          have hdropped : (rule :: rules).filter (·.isApplicable context) =
              rules.filter (·.isApplicable context) :=
            List.filter_cons_of_neg (ne_true_of_eq_false happlicable)
          rw [hdropped]
          rfl
      | true =>
          have hkept : (rule :: rules).filter (·.isApplicable context) =
              rule :: rules.filter (·.isApplicable context) := List.filter_cons_of_pos happlicable
          rw [hkept, List.map_cons, if_pos rfl, ← List.filter_append, List.singleton_append]

theorem Engine.results_append (xs ys : List Rule) (trace trace' trace'' : TraceState) :
    (engine.evaluateRules (.ok settings) mode context (xs ++ ys) trace).results =
      (engine.evaluateRules (.ok settings) mode context xs trace').results ++
        (engine.evaluateRules (.ok settings) mode context ys trace'').results := by
  simp only [engine.results_eq_filter, List.filter_append, List.map_append]

/-- A rule that does not match contributes no result. -/
theorem Engine.results_of_unmatched {rule : Rule}
    (h : (engine.resultFor settings mode context rule).matched = false) (trace : TraceState) :
    (engine.evaluateRules (.ok settings) mode context [rule] trace).results = [] := by
  rw [engine.results_eq_filter]
  cases happlicable : rule.isApplicable context <;> simp [happlicable, h]

/-! ## Independence -/

/-- Let `single` be what the rules come to, each on its own.  A pass gives those of its results that
matched, in order, for the rules that are active and meant for all servers or this one.  It takes
rule lists apart at any point, it does not look at the rule attached to the context, and a rule that
does not match, such as one that is stuck, can be left out or put in anywhere. -/
theorem Engine.evaluateRules_independent (engine : Engine) (settings : Settings) (mode : Mode)
    (context : Context) :
    let pass := Engine.evaluateRules engine (.ok settings) mode
    ∃ single : Rule → EvaluationResult,
      (∀ rule, (engine.evaluateRule (.ok settings) mode (context.withRule rule)).outcome =
        .ok (single rule) ∧ (single rule).ruleId = rule.id) ∧
      (∀ rules trace, (pass context rules trace).results =
        ((rules.filter fun rule => rule.isActive && decide (rule.serverId = none ∨
          rule.serverId = some "" ∨ rule.serverId = some context.server.id)).map
            single).filter (·.matched)) ∧
      (∀ xs ys trace trace' trace'', (pass context (xs ++ ys) trace).results =
        (pass context xs trace').results ++ (pass context ys trace'').results) ∧
      (∀ attached rules trace,
        pass { context with rule := attached } rules trace = pass context rules trace) ∧
      (∀ xs rule ys trace trace', (single rule).matched = false →
        (pass context (xs ++ rule :: ys) trace).results =
          (pass context (xs ++ ys) trace').results) ∧
      ∀ rule, engine.isStuck mode (rule.conditions.getD []) = true →
        (single rule).matched = false := by
  intro pass
  refine ⟨engine.resultFor settings mode context, fun rule => ⟨?_, ?_⟩, fun rules trace => ?_,
    engine.results_append settings mode context, fun attached rules trace => rfl,
    fun xs rule ys trace trace' hmatched => ?_, fun rule hstuck => ?_⟩
  · exact engine.outcome_evaluateRule settings mode context rule
  · exact (engine.wellFormed_resultFor settings mode context rule).ruleId_eq
  · simp only [← Rule.isApplicable_eq]
    exact engine.results_eq_filter settings mode context rules trace
  · have hnone := engine.results_of_unmatched settings mode context hmatched trace
    have hsplit : xs ++ rule :: ys = (xs ++ [rule]) ++ ys := by simp
    rw [hsplit, engine.results_append settings mode context (xs ++ [rule]) ys trace trace trace,
      engine.results_append settings mode context xs [rule] trace trace trace, hnone,
      List.append_nil]
    exact (engine.results_append settings mode context xs ys trace' trace trace).symm
  · unfold Engine.resultFor
    rw [if_pos hstuck]
    rfl

/-- Without waiting, an engine that gives up its turn is stuck on the second of three rules; the
first matches for want of groups, and the third is for another server. -/
theorem Engine.evaluateRules_independent_stuck :
    let engine : Engine := { suspends := true }
    let free : Rule := { id := "free", name := "Free" }
    let stuck : Rule := { id := "stuck", name := "Stuck", conditions := some [[]] }
    let foreign : Rule := { id := "foreign", name := "Foreign", serverId := some "elsewhere" }
    let results (rules : List Rule) :=
      (engine.evaluateRules (.ok {}) .sync .lone rules {}).results
    engine.isStuck .sync (stuck.conditions.getD []) = true ∧
      results ([free] ++ stuck :: [foreign]) = results ([free] ++ [foreign]) ∧
      (results ([free] ++ [foreign])).map (·.ruleId) = ["free"] := by
  intro engine free stuck foreign results
  obtain ⟨single, -, -, -, -, hskip, hunmatched⟩ :=
    Engine.evaluateRules_independent engine {} .sync .lone
  have hstuck : (single stuck).matched = false := hunmatched stuck rfl
  exact ⟨rfl, hskip [free] stuck [foreign] {} {} hstuck, rfl⟩

end PlaybackRules
