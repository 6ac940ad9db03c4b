import Mathlib.Data.List.Count
import PlaybackRules.Metrics

/-!
# Counters

The counter of a tally says how often each key occurs in it (`Counter.get_tally`), so it does not
depend on the order of the keys.  The counters of a run of events are read off what the events
count: evaluations (`Metrics.get_evaluated`), matches (`Metrics.get_matched`) and failures
(`Metrics.get_failures`).
-/

namespace PlaybackRules

theorem Counter.get_cons (k other : String) (n : Nat) (rest : Counter) :
    Counter.get ((k, n) :: rest) other = if k = other then n else rest.get other := by
  unfold get
  by_cases h : k = other
  · simp [h]
  · have hne : (other == k) = false := by simpa using Ne.symm h
    simp [List.lookup_cons, hne, h]

theorem Counter.get_add (key other : String) : ∀ counter : Counter,
    (counter.add key).get other = counter.get other + if key = other then 1 else 0
  | [] => by
      rw [add, get_cons]
      exact (Nat.zero_add _).symm
  | (k, n) :: rest => by
      unfold add
      by_cases hk : k = key
      · subst hk
        by_cases h : k = other <;> simp [get_cons, h]
      · simp only [beq_iff_eq, hk, if_false]
        by_cases h : k = other
        · subst h
          simp [get_cons, Ne.symm hk]
        · simpa [get_cons, h] using get_add key other rest

/-- A tally counts the occurrences of each key. -/
theorem Counter.get_tally (keys : List String) (key : String) :
    (Counter.tally keys).get key = keys.count key := by
  have hfold : ∀ (keys : List String) (counter : Counter),
      (keys.foldl Counter.add counter).get key = counter.get key + keys.count key := by
    intro keys
    induction keys with
    | nil => exact fun counter => rfl
    | cons k keys ih =>
        intro counter
        rw [List.foldl_cons, ih, Counter.get_add, List.count_cons]
        simp only [beq_iff_eq]
        omega
  rw [Counter.tally, hfold]
  exact Nat.zero_add _

/-- Keys that are counted under names are counted apart when the names are. -/
theorem Counter.get_tally_map {α : Type} [BEq α] [LawfulBEq α] {name : α → String}
    (hname : Function.Injective name) (keys : List α) (key : α) :
    (Counter.tally (keys.map name)).get (name key) = keys.count key := by
  rw [Counter.get_tally, List.count_map_of_injective _ _ hname]

/-! ## What events count -/

/-- The mode in which an event counts an evaluation, if it does. -/
def Event.mode? : Event → Option Mode
  | .evaluated mode => some mode
  | _ => none

/-- The rule whose match an event counts, if it does. -/
def Event.matchedRule? : Event → Option String
  | .matched ruleId => some ruleId
  | _ => none

/-- The reason that an event counts, if it counts a failure. -/
def Event.reason? : Event → Option Reason
  | .failed reason => some reason
  | _ => none

/-- The evaluations that are counted for a mode in a run of events. -/
theorem Metrics.get_evaluated (events : List Event) (mode : Mode) :
    (Metrics.ofEvents events).evaluated.get mode.name =
      (events.filterMap Event.mode?).count mode := by
  have hnames : (Metrics.ofEvents events).evaluated =
      .tally ((events.filterMap Event.mode?).map Mode.name) := by
    rw [List.map_filterMap]
    show Counter.tally _ = Counter.tally _
    congr 2
    funext event
    cases event <;> rfl
  have hinjective : Function.Injective Mode.name := by
    intro a b
    cases a <;> cases b <;> simp [Mode.name]
  rw [hnames, Counter.get_tally_map hinjective]

/-- The matches that are counted for a rule in a run of events. -/
theorem Metrics.get_matched (events : List Event) (ruleId : String) :
    (Metrics.ofEvents events).matched.get ruleId =
      (events.filterMap Event.matchedRule?).count ruleId := by
  have hnames : (Metrics.ofEvents events).matched =
      .tally (events.filterMap Event.matchedRule?) := rfl
  rw [hnames, Counter.get_tally]

/-- The failures that are counted for a reason in a run of events. -/
theorem Metrics.get_failures (events : List Event) (reason : Reason) :
    (Metrics.ofEvents events).failures.get reason.name =
      (events.filterMap Event.reason?).count reason := by
  have hnames : (Metrics.ofEvents events).failures =
      .tally ((events.filterMap Event.reason?).map Reason.name) := by
    rw [List.map_filterMap]
    show Counter.tally _ = Counter.tally _
    congr 2
    funext event
    cases event <;> rfl
  have hinjective : Function.Injective Reason.name := by
    intro a b
    cases a <;> cases b <;> simp [Reason.name]
  rw [hnames, Counter.get_tally_map hinjective]

end PlaybackRules
