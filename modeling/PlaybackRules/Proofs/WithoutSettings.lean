import PlaybackRules.Proofs.Nesting
import PlaybackRules.Proofs.Uncounted
import PlaybackRules.Proofs.Unreadable

/-!
# Passes without settings

Without settings no rule comes to a result, so a pass over rules has none to give.  Each applicable
rule is left out with a record of the faults (`Engine.ruleFailed_mem_evaluateRules`), nothing is
counted, since the switch for counting cannot be consulted either (`Engine.metrics_evaluateRules`),
and the trace scope closes as ever.  So an environment whose settings cannot be read fails a single
rule with the faults of the settings, and closes every pass without a match
(`Engine.failsClosed_of_unreadable`).
-/

namespace PlaybackRules

/-- The pass has come to nothing: no rule matched and no counter moves, and the identifiers of the
trace state from before it are back. -/
structure TracedPass.FailsClosed (pass : TracedPass) (trace : TraceState) : Prop where
  results_eq : pass.results = []
  metrics_eq : ∀ history, Metrics.ofEvents (history ++ pass.events.map (·.event)) =
    Metrics.ofEvents history
  current_eq : pass.trace.current = trace.current
  sameIds : trace.InStep → pass.trace.SameIds trace

namespace TracedPass

theorem failsClosed_nothing (trace : TraceState) : ({ trace } : TracedPass).FailsClosed trace where
  results_eq := rfl
  metrics_eq history := by rw [List.map_nil, List.append_nil]
  current_eq := rfl
  sameIds _ := .refl trace

/-- A record that is logged beforehand moves no counter. -/
theorem FailsClosed.logged {pass : TracedPass} {trace : TraceState} (h : pass.FailsClosed trace)
    (entry : Entry) (bound : Option TraceId) :
    ({ pass with events := { event := .logged entry, trace := bound } :: pass.events } :
      TracedPass).FailsClosed trace where
  results_eq := h.results_eq
  metrics_eq history := by
    rw [List.map_cons, ← Metrics.ofEvents_filter, List.filter_append]
    show Metrics.ofEvents (history.filter Event.isCounted ++
      (pass.events.map (·.event)).filter Event.isCounted) = _
    rw [← List.filter_append, Metrics.ofEvents_filter, h.metrics_eq]
  current_eq := h.current_eq
  sameIds := h.sameIds

end TracedPass

variable (engine : Engine) (mode : Mode) (context : Context) (faults : List Fault)

/-! ## Single rules -/

/-- What a rule adds to a pass: no result, and after its own events the record of its failure. -/
theorem Engine.passRule_unreadable (rule : Rule) :
    engine.passRule (.error faults) mode context rule =
      { events := (engine.evaluateRule (.error faults) mode (context.withRule rule)).events ++
          [.logged (.ruleFailed rule.id (.settings faults))] } := by
  unfold Engine.passRule
  simp only [engine.outcome_evaluateRule_unreadable mode context faults rule]

/-! ## Passes -/

variable (rules : List Rule) (trace : TraceState)

theorem Engine.results_evaluateRules_unreadable :
    (engine.evaluateRules (.error faults) mode context rules trace).results = [] := by
  rw [engine.results_evaluateRules]
  refine List.flatMap_eq_nil_iff.2 fun rule _ => ?_
  unfold Engine.contribution
  rw [engine.passRule_unreadable mode context faults rule, ite_self]

/-- An applicable rule is logged with the faults for which it failed. -/
theorem Engine.ruleFailed_mem_evaluateRules {rule : Rule} (hrule : rule ∈ rules)
    (happlicable : rule.isApplicable context = true) :
    .logged (.ruleFailed rule.id (.settings faults)) ∈
      (engine.evaluateRules (.error faults) mode context rules trace).events.map Stamped.event := by
  rw [engine.map_event_evaluateRules]
  refine Engine.mem_events_passRules engine _ mode happlicable ?_ hrule
  rw [engine.passRule_unreadable mode context faults rule]
  exact List.mem_append_right _ (List.mem_singleton_self _)

/-- Without settings metrics are as good as switched off: no event of a pass counts anything. -/
theorem Engine.metrics_evaluateRules (history : List Event) :
    Metrics.ofEvents (history ++
        (engine.evaluateRules (.error faults) mode context rules trace).events.map (·.event)) =
      Metrics.ofEvents history := by
  have huncounted : engine.passRules (.error faults) mode context rules =
      (engine.passRules (.error faults) mode context rules).uncounted :=
    engine.passRules_withoutMetrics (.error faults) mode context rules
  rw [engine.map_event_evaluateRules, huncounted]
  exact Metrics.ofEvents_append_uncounted history _

theorem Engine.failsClosed_evaluateRules :
    (engine.evaluateRules (.error faults) mode context rules trace).FailsClosed trace where
  results_eq := engine.results_evaluateRules_unreadable mode context faults rules trace
  metrics_eq := engine.metrics_evaluateRules mode context faults rules trace
  current_eq := engine.current_evaluateRules (.error faults) mode context rules trace
  sameIds := engine.sameIds_evaluateRules (.error faults) mode context rules

theorem Engine.failsClosed_reevaluate (previous : Session) :
    (engine.reevaluate (.error faults) context rules previous trace).FailsClosed trace := by
  have hnothing := TracedPass.failsClosed_nothing trace
  unfold Engine.reevaluate
  by_cases hchanged : previous.transcodeChanged context.session = true
  · rw [if_pos hchanged]
    by_cases hempty : (rules.filter (·.dependsOnTranscode)).isEmpty = true
    · simp only [if_pos hempty]
      exact hnothing.logged _ trace.bound
    · simp only [if_neg hempty]
      have hpass := engine.failsClosed_evaluateRules .async context faults
        (rules.filter (·.dependsOnTranscode)) trace
      exact hpass.logged _ trace.bound
  · rw [if_neg hchanged]
    exact hnothing

/-- In an environment whose settings cannot be read, every rule fails with the faults of the
settings, whatever its conditions; a pass over rules leaves each of them out and logs it; and
neither a pass nor a new look after a change of transcoding gives a result, moves a counter or
changes the identifier of its caller. -/
theorem Engine.failsClosed_of_unreadable {environment : Environment} {faults : List Fault}
    (h : Settings.load environment [] = .error faults) (engine : Engine) (context : Context) :
    let config : Configuration := Settings.load environment []
    (∀ mode rule, (engine.evaluateRule config mode (context.withRule rule)).outcome =
      .error (.settings faults)) ∧
    (∀ mode rules trace,
      let pass := engine.evaluateRules config mode context rules trace
      pass.FailsClosed trace ∧
      ∀ rule ∈ rules, rule.isApplicable context = true →
        .logged (.ruleFailed rule.id (.settings faults)) ∈ pass.events.map Stamped.event) ∧
    ∀ rules previous trace,
      (engine.reevaluate config context rules previous trace).FailsClosed trace := by
  intro config
  have hconfig : config = .error faults := h
  rw [hconfig]
  refine ⟨fun mode rule => ?_, fun mode rules trace => ⟨?_, fun rule hrule happlicable => ?_⟩,
    fun rules previous trace => ?_⟩
  · exact engine.outcome_evaluateRule_unreadable mode context faults rule
  · exact engine.failsClosed_evaluateRules mode context faults rules trace
  · exact engine.ruleFailed_mem_evaluateRules mode context faults rules trace hrule happlicable
  · exact engine.failsClosed_reevaluate context faults rules trace previous

/-- A default window of no hours is refused.  One rule has no account of conditions, one no groups,
which would match, and one a condition of an unknown field, which would fail closed. -/
theorem Engine.failsClosed_of_unreadable_window :
    let environment : Environment :=
      { stem := "RULES_", assignments := [("rules_default_window_hours", "0")] }
    let faults : List Fault := [{ kind := .greaterThan, path := [.key "default_window_hours"] }]
    let config : Configuration := Settings.load environment []
    let stray : ConditionGroup := [{ field := .unknown "weather", operator := .eq }]
    let rules : List Rule := [
      { id := "bare", name := "Bare", conditions := none },
      { id := "free", name := "Free" },
      { id := "stray", name := "Stray", conditions := some [stray] }]
    config = .error faults ∧
      (∀ rule, (({} : Engine).evaluateRule config .sync (Context.lone.withRule rule)).outcome =
        .error (.settings faults)) ∧
      (({} : Engine).evaluateRules config .async .lone rules {}).FailsClosed {} := by
  have hload : Settings.load ⟨"RULES_", [("rules_default_window_hours", "0")]⟩ [] =
      .error [⟨.greaterThan, [.key "default_window_hours"]⟩] := rfl
  intro environment faults config stray rules
  obtain ⟨hrule, hrules, -⟩ := Engine.failsClosed_of_unreadable hload {} .lone
  exact ⟨hload, hrule .sync, (hrules .async rules {}).1⟩

end PlaybackRules
