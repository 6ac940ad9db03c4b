import PlaybackRules.Evaluation.Rule
import PlaybackRules.Trace

/-!
# Evaluation of a rule set

The applicable rules are evaluated one after another within one trace scope, and the results of
those that matched are given in order.  A rule whose evaluation fails is logged and left out; the
others are not affected.
-/

namespace PlaybackRules

/-- The results of a pass over rules, and what happened in it. -/
structure Pass where
  results : List EvaluationResult := []
  events : List Event := []

namespace Pass

/-- One pass after another. -/
def append (first second : Pass) : Pass where
  results := first.results ++ second.results
  events := first.events ++ second.events

instance : Append Pass := ⟨append⟩

end Pass

/-- Is the rule active, and for the server of the context? -/
def Rule.isApplicable (rule : Rule) (context : Context) : Bool :=
  rule.isActive && rule.appliesTo context.server.id

/-- The pass over a single rule. -/
def Engine.passRule (engine : Engine) (config : Configuration) (mode : Mode) (context : Context)
    (rule : Rule) : Pass :=
  let run := engine.evaluateRule config mode (context.withRule rule)
  match run.outcome with
  | .ok result => { results := if result.matched then [result] else [], events := run.events }
  | .error failure => { events := run.events ++ [.logged (.ruleFailed rule.id failure)] }

/-- The pass over rules, applicable or not. -/
def Engine.passRules (engine : Engine) (config : Configuration) (mode : Mode) (context : Context)
    (rules : List Rule) : Pass :=
  (rules.filter (·.isApplicable context)).foldr
    (fun rule rest => engine.passRule config mode context rule ++ rest) {}

/-- An event with the trace identifier that log records carry at the time. -/
structure Stamped where
  event : Event
  trace : Option TraceId

/-- The results of a pass with its stamped events, and the trace state after it. -/
structure TracedPass where
  results : List EvaluationResult := []
  events : List Stamped := []
  trace : TraceState

/-- Evaluates rules within a trace scope. -/
def Engine.evaluateRules (engine : Engine) (config : Configuration) (mode : Mode)
    (context : Context) (rules : List Rule) (trace : TraceState) : TracedPass :=
  let (scope, trace) := TraceScope.make trace none
  let (scope, inside) := scope.enter trace
  let pass := engine.passRules config mode context rules
  { results := pass.results
    events := pass.events.map fun event => { event, trace := inside.bound }
    trace := scope.exit inside }

/-- Evaluates anew the rules that depend on transcoding, when the decision to transcode has changed
from what it was in `previous`.  Without a change nothing happens. -/
def Engine.reevaluate (engine : Engine) (config : Configuration) (context : Context)
    (rules : List Rule) (previous : Session) (trace : TraceState) : TracedPass :=
  if previous.transcodeChanged context.session then
    let candidates := rules.filter (·.dependsOnTranscode)
    let announced : Stamped :=
      { event := .logged (.transcodeChanged context.session candidates.length),
        trace := trace.bound }
    if candidates.isEmpty then { events := [announced], trace }
    else
      let pass := engine.evaluateRules config .async context candidates trace
      { pass with events := announced :: pass.events }
  else { trace }

end PlaybackRules
