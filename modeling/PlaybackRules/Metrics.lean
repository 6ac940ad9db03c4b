import PlaybackRules.Evaluation.RuleSet

/-!
# Metrics

Counters kept over evaluations: how many rules were evaluated in each mode, how often each rule
matched, and how many conditions failed closed for each reason.  They are read off the events.
-/

namespace PlaybackRules

/-- How often each key has been counted, in order of first occurrence. -/
abbrev Counter := List (String × Nat)

namespace Counter

/-- Counts a key once more. -/
def add (counter : Counter) (key : String) : Counter :=
  match counter with
  | [] => [(key, 1)]
  | (k, n) :: rest => if k == key then (k, n + 1) :: rest else (k, n) :: Counter.add rest key

/-- Counts the members of a list. -/
def tally (keys : List String) : Counter := keys.foldl Counter.add []

/-- How often a key has been counted. -/
def get (counter : Counter) (key : String) : Nat := (counter.lookup key).getD 0

def write (counter : Counter) : Value := .object (counter.map fun (key, n) => (key, .int n))

end Counter

/-- The counters.  Each evaluation of a rule is also one observation of latency. -/
structure Metrics where
  evaluated : Counter := []
  matched : Counter := []
  failures : Counter := []

namespace Metrics

/-- The counters after a run of events. -/
def ofEvents (events : List Event) : Metrics where
  evaluated := .tally (events.filterMap fun | .evaluated mode => some mode.name | _ => none)
  matched := .tally (events.filterMap fun | .matched ruleId => some ruleId | _ => none)
  failures := .tally (events.filterMap fun | .failed reason => some reason.name | _ => none)

def write (metrics : Metrics) : Value := .object [
  ("evaluated", metrics.evaluated.write),
  ("matched", metrics.matched.write),
  ("failures", metrics.failures.write),
  ("latency", metrics.evaluated.write)]

end Metrics

end PlaybackRules
