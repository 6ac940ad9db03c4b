import PlaybackRules.Proofs.Findings
import PlaybackRules.Proofs.Independence

/-!
# What settings decide

Of all settings only the default window has a part in what rules come to.  Evidence is found under
the default window alone (`Registry.evidence_of_defaultWindow`), and a built-in observation looks at
that only in a condition on a window of time which names none of its own
(`Field.observe_of_namesWindow`).  So a pass gives the same results under any two settings with one
default window, and even under any two whatever, if all conditions on a window name it
(`Engine.results_of_settings`).
-/

namespace PlaybackRules

/-! ## Conditions that name their window -/

/-- The condition has a window of its own. -/
def Condition.NamesWindow (condition : Condition) : Prop :=
  ∃ hours, condition.params.get? "window_hours" = some hours ∧ hours ≠ .null

/-- Every condition of the rule that counts within a window has a window of its own. -/
def Rule.NamesWindows (rule : Rule) : Prop :=
  ∀ group ∈ rule.conditions.getD [], ∀ condition ∈ group,
    condition.field = .known .uniqueIps ∨ condition.field = .known .uniqueDevices →
      condition.NamesWindow

theorem Observation.windowHours_of_namesWindow {condition : Condition} (h : condition.NamesWindow)
    (window window' : Except Failure Binary64) :
    windowHours window' condition = windowHours window condition := by
  obtain ⟨hours, hget, hnull⟩ := h
  unfold windowHours
  rw [hget]
  cases hours with
  | null => exact absurd rfl hnull
  | _ => rfl

theorem Observation.distinctInWindow_of_namesWindow {condition : Condition}
    (h : condition.NamesWindow) (window window' : Except Failure Binary64) (key : String)
    (name : Session → String) (context : Context) :
    distinctInWindow key name window' context condition =
      distinctInWindow key name window context condition := by
  unfold distinctInWindow
  rw [windowHours_of_namesWindow h window window']

/-- No observation looks at the default window, unless it counts within a window and none is
named. -/
theorem Field.observe_of_namesWindow (field : Field) (condition : Condition)
    (h : field = .uniqueIps ∨ field = .uniqueDevices → condition.NamesWindow)
    (window window' : Except Failure Binary64) (context : Context) :
    field.observe window' context condition = field.observe window context condition := by
  cases field with
  | uniqueIps =>
      exact Observation.distinctInWindow_of_namesWindow (h (.inl rfl)) window window' _ _ context
  | uniqueDevices =>
      exact Observation.distinctInWindow_of_namesWindow (h (.inr rfl)) window window' _ _ context
  | _ => rfl

/-! ## Evidence under two settings -/

variable {settings settings' : Settings} (mode : Mode) (context : Context)

/-- Evidence depends on settings through their default window only. -/
theorem Registry.evidence_of_defaultWindow (h : settings'.defaultWindow = settings.defaultWindow)
    (registry : Registry) :
    registry.evidence settings' mode context = registry.evidence settings mode context := by
  funext condition
  unfold Registry.evidence Registry.verdict Registry.call?
  rw [h]

theorem Registry.evidence_of_namesWindow {condition : Condition}
    (h : condition.field = .known .uniqueIps ∨ condition.field = .known .uniqueDevices →
      condition.NamesWindow) :
    Registry.builtIn.evidence settings' mode context condition =
      Registry.builtIn.evidence settings mode context condition := by
  unfold Registry.evidence
  cases hfield : condition.field with
  | unknown name =>
      have hnone : condition.field.field? = none := by rw [hfield]; rfl
      rw [Registry.verdict_unknown _ settings mode context hnone,
        Registry.verdict_unknown _ settings' mode context hnone]
  | known field =>
      have hsome : condition.field.field? = some field := by rw [hfield]; rfl
      rw [hfield] at h
      have hobserve := field.observe_of_namesWindow condition
        (fun hwindow => h (hwindow.imp (congrArg _) (congrArg _)))
        (.ok settings.defaultWindow) (.ok settings'.defaultWindow) context
      rw [Registry.verdict_builtIn settings mode context hsome,
        Registry.verdict_builtIn settings' mode context hsome, hobserve]

/-! ## Results under two settings -/

/-- A rule comes to the same under two settings under which its conditions do. -/
theorem Engine.resultFor_of_evidence (engine : Engine) {rule : Rule}
    (h : ∀ group ∈ rule.conditions.getD [], ∀ condition ∈ group,
      engine.registry.evidence settings' mode (context.withRule rule) condition =
        engine.registry.evidence settings mode (context.withRule rule) condition) :
    engine.resultFor settings' mode context rule = engine.resultFor settings mode context rule := by
  unfold Engine.resultFor
  rw [rule.resultBy_congr h]

/-- A pass gives the same results under two settings under which its rules come to the same. -/
theorem Engine.results_of_resultFor (engine : Engine) {rules : List Rule}
    (h : ∀ rule ∈ rules,
      engine.resultFor settings' mode context rule = engine.resultFor settings mode context rule)
    (trace trace' : TraceState) :
    (engine.evaluateRules (.ok settings') mode context rules trace').results =
      (engine.evaluateRules (.ok settings) mode context rules trace).results := by
  rw [engine.results_eq_filter, engine.results_eq_filter]
  congr 1
  refine List.map_congr_left fun rule hrule => ?_
  exact h rule (List.mem_filter.1 hrule).1

/-- Settings have no part in the results of a pass, except for the default window; and that has none
either where every condition that counts within a window names it. -/
theorem Engine.results_of_settings (settings settings' : Settings) (mode : Mode)
    (context : Context) (rules : List Rule) (trace trace' : TraceState) :
    (settings'.defaultWindow = settings.defaultWindow → ∀ engine : Engine,
      (engine.evaluateRules (.ok settings') mode context rules trace').results =
        (engine.evaluateRules (.ok settings) mode context rules trace).results) ∧
    ((∀ rule ∈ rules, rule.NamesWindows) → ∀ suspends,
      let engine : Engine := { suspends }
      (engine.evaluateRules (.ok settings') mode context rules trace').results =
        (engine.evaluateRules (.ok settings) mode context rules trace).results) := by
  refine ⟨fun hwindow engine => ?_, fun hnames suspends => ?_⟩
  · refine engine.results_of_resultFor mode context (fun rule _ => ?_) trace trace'
    refine engine.resultFor_of_evidence mode context fun _ _ condition _ => ?_
    rw [Registry.evidence_of_defaultWindow mode (context.withRule rule) hwindow]
  · intro engine
    refine engine.results_of_resultFor mode context (fun rule hrule => ?_) trace trace'
    refine engine.resultFor_of_evidence mode context fun group hgroup condition hcondition => ?_
    exact Registry.evidence_of_namesWindow mode (context.withRule rule)
      (hnames rule hrule group hgroup condition hcondition)

/-- The session starts with the calendar, where the default window would not fit, and a condition
counts addresses from the start of the session on.  Another condition, of an unknown field, fails
closed. -/
theorem Engine.results_of_settings_quiet :
    let quiet : Settings := { debug := true, logLevel := .error, metricsEnabled := false }
    let short : Settings := { quiet with defaultWindow := .finite false Binary64.one }
    let group : ConditionGroup := [
      { field := .unknown "weather", operator := .eq },
      { field := .known .uniqueIps, operator := .lt, value := .scalar (.int 2),
        params := [("window_hours", .int 0)] }]
    let rules : List Rule := [{ id := "few", name := "Few", conditions := some [group] }]
    let results (settings : Settings) (mode : Mode) :=
      (({} : Engine).evaluateRules (.ok settings) mode .lone rules {}).results
    (quiet.defaultWindow = ({} : Settings).defaultWindow ∧ ∀ rule ∈ rules, rule.NamesWindows) ∧
      results quiet .async = results {} .async ∧ results short .sync = results {} .sync ∧
      (results {} .sync).map (·.ruleId) = ["few"] := by
  intro quiet short group rules results
  have hnames : ∀ rule ∈ rules, rule.NamesWindows := by
    intro rule hrule other hother condition hcondition hwindow
    cases List.mem_singleton.1 hrule
    cases List.mem_singleton.1 hother
    rcases List.mem_pair.1 hcondition with rfl | rfl
    · rcases hwindow with hwindow | hwindow <;> cases hwindow
    · exact ⟨.int 0, rfl, nofun⟩
  obtain ⟨hsame, -⟩ := Engine.results_of_settings {} quiet .async .lone rules {} {}
  obtain ⟨-, hnamed⟩ := Engine.results_of_settings {} short .sync .lone rules {} {}
  exact ⟨⟨rfl, hnames⟩, hsame rfl {}, hnamed hnames false, by decide +kernel⟩

end PlaybackRules
