import PlaybackRules.Proofs.Agreement

/-!
# Failing closed

An evaluator is faulty when nothing that it answers comes to evidence: it fails, or answers what
cannot be read, at once or after waiting.  A registry is degraded from another when some of its
fields lost their evaluator or got a faulty one.  A condition on such a field fails closed in either
mode, so a fault may take a match away and never adds one: what matches under the degraded registry
matches under the other, with the same evidence wherever the evaluator is the same
(`Engine.matched_of_degraded`).
-/

namespace PlaybackRules

/-! ## Faults -/

/-- Is an outcome a fault: a failure, or a value that cannot be read as evidence? -/
def Outcome.isFault (condition : Condition) : Outcome → Bool
  | report r => (r.evidence? condition).isNone
  | other _ => true
  | failed _ => true

/-- An evaluator is faulty when every outcome that comes of its answers is a fault. -/
def Evaluator.IsFaulty (evaluator : Evaluator) : Prop :=
  ∀ window context condition mode outcome,
    (evaluator window context condition).answer.outcome? mode = some outcome →
      outcome.isFault condition = true

/-- A registry is degraded from another when each field has the evaluator that it has there, or
none, or a faulty one. -/
def Registry.IsDegradedFrom (registry faultless : Registry) : Prop :=
  ∀ field, registry field = faultless field ∨
    ∀ evaluator, registry field = some evaluator → evaluator.IsFaulty

/-- Do two registries treat a condition alike, by the same evaluator or by none? -/
def Registry.SameEvaluator (registry registry' : Registry) (condition : Condition) : Prop :=
  condition.field.field?.bind registry = condition.field.field?.bind registry'

variable {registry faultless : Registry} (settings : Settings) (mode : Mode) (context : Context)
  {condition : Condition}

/-! ## Evidence under faults -/

theorem Outcome.underVerdict_of_isFault {outcome : Outcome}
    (h : outcome.isFault condition = true) :
    condition.underVerdict (outcome.judge condition) = condition.closed := by
  cases outcome with
  | report r =>
      have hnone : r.evidence? condition = none := Option.isNone_iff_eq_none.1 h
      simp only [Outcome.judge, hnone]
      rfl
  | other value => rfl
  | failed failure => rfl

/-- A condition without an evaluator, or with a faulty one, fails closed. -/
theorem Registry.evidence_of_faulty
    (h : ∀ evaluator, condition.field.field?.bind registry = some evaluator → evaluator.IsFaulty) :
    registry.evidence settings mode context condition = condition.closed := by
  rw [Registry.evidence_eq]
  unfold Registry.outcome? Registry.call?
  cases hevaluator : condition.field.field?.bind registry with
  | none => rfl
  | some evaluator =>
      rw [Option.map_some, Option.bind_some]
      cases houtcome : (evaluator (.ok settings.defaultWindow) context condition).answer.outcome?
          mode with
      | none => rfl
      | some outcome =>
          have hfault := h evaluator hevaluator _ _ _ _ _ houtcome
          exact Outcome.underVerdict_of_isFault hfault

theorem Registry.evidence_of_sameEvaluator (h : registry.SameEvaluator faultless condition) :
    registry.evidence settings mode context condition =
      faultless.evidence settings mode context condition := by
  have hcall : registry.call? settings context condition =
      faultless.call? settings context condition := by
    rw [Registry.call?, h, Registry.call?]
  unfold Registry.evidence Registry.verdict
  rw [hcall]

/-- In a degraded registry a condition fails closed, unless its evaluator was kept. -/
theorem Registry.IsDegradedFrom.sameEvaluator_or_closed (h : registry.IsDegradedFrom faultless)
    (condition : Condition) :
    registry.SameEvaluator faultless condition ∨
      registry.evidence settings mode context condition = condition.closed := by
  unfold Registry.SameEvaluator
  cases hfield : condition.field.field? with
  | none => exact Or.inl rfl
  | some field =>
      rcases h field with hsame | hfaulty
      · exact Or.inl hsame
      · right
        apply Registry.evidence_of_faulty
        intro evaluator hevaluator
        rw [hfield] at hevaluator
        exact hfaulty evaluator hevaluator

theorem Registry.IsDegradedFrom.matched_evidence (h : registry.IsDegradedFrom faultless)
    (condition : Condition)
    (hmatched : (registry.evidence settings mode context condition).matched = true) :
    (faultless.evidence settings mode context condition).matched = true := by
  rcases h.sameEvaluator_or_closed settings mode context condition with hsame | hclosed
  · rwa [← Registry.evidence_of_sameEvaluator settings mode context hsame]
  · rw [hclosed] at hmatched
    exact absurd hmatched Bool.false_ne_true

/-! ## Rules under faults -/

/-- A fault never creates a match: a rule that matches under a degraded registry matches under the
other too, and then the evidence of every condition whose evaluator was kept is the same. -/
theorem Engine.matched_of_degraded (h : registry.IsDegradedFrom faultless) (suspends : Bool)
    (rule : Rule) :
    let run (registry : Registry) :=
      ({ registry, suspends } : Engine).evaluateRule (.ok settings) mode (context.withRule rule)
    ∃ found result, (run registry).outcome = .ok found ∧ (run faultless).outcome = .ok result ∧
      (found.matched = true → result.matched = true ∧
        found.Agree (fun condition evidence evidence' =>
          registry.SameEvaluator faultless condition → evidence' = evidence) rule result) := by
  intro run
  have hfound : (run registry).outcome = _ :=
    Engine.outcome_evaluateRule settings mode context { registry, suspends } rule
  have hresult : (run faultless).outcome = _ :=
    Engine.outcome_evaluateRule settings mode context { registry := faultless, suspends } rule
  refine ⟨_, _, hfound, hresult, fun hmatched => ?_⟩
  have hfree := Engine.not_stuck_of_matched settings mode context hmatched
  have hfree' : ({ registry := faultless, suspends } : Engine).isStuck mode
      (rule.conditions.getD []) = false := hfree
  rw [Engine.resultFor_of_not_stuck settings mode context hfree] at hmatched ⊢
  rw [Engine.resultFor_of_not_stuck settings mode context hfree']
  have hmatched' : (rule.resultBy
      (faultless.evidence settings mode (context.withRule rule))).matched = true := by
    rw [Rule.matched_resultBy] at hmatched ⊢
    exact rule.holdsBy_mono (h.matched_evidence settings mode (context.withRule rule)) hmatched
  refine ⟨hmatched', rule.agree_resultBy (fun condition hsame => ?_)
    (hmatched'.trans hmatched.symm)⟩
  exact (Registry.evidence_of_sameEvaluator settings mode (context.withRule rule) hsame).symm

/-- One field lost its evaluator, one fails at once, and one gives an unreadable answer after a
while; the rule still matches, by the conditions beside them. -/
theorem Engine.matched_of_degraded_partly :
    let faultless : Registry := fun _ => some fun _ _ _ =>
      { answer := .later (.task 1 (.report { matched := .bool true, actual := .str "seen" })) }
    let registry : Registry := fun field =>
      if field = .platform then none
      else if field = .country then
        some fun _ _ _ => { answer := .now (.failed (.reported "no lookup")) }
      else if field = .deviceType then
        some fun _ _ _ => { answer := .later (.task 2 (.other (.int 5))) }
      else faultless field
    let condition (field : Field) : Condition := { field := .known field, operator := .eq }
    let rule : Rule := { id := "rule", name := "Rule", conditions := some [
      [condition .country, condition .mediaType],
      [condition .platform, condition .userId, condition .deviceType]] }
    let run (registry : Registry) :=
      ({ registry } : Engine).evaluateRule (.ok {}) .async (Context.lone.withRule rule)
    registry.IsDegradedFrom faultless ∧
      ∃ found result, (run registry).outcome = .ok found ∧ (run faultless).outcome = .ok result ∧
        found.matched = true ∧ result.matched = true ∧
        found.Agree (fun condition evidence evidence' =>
          registry.SameEvaluator faultless condition → evidence' = evidence) rule result := by
  intro faultless registry condition rule run
  have hdegraded : registry.IsDegradedFrom faultless := by
    intro field
    by_cases hfield : field = .platform ∨ field = .country ∨ field = .deviceType
    · right
      intro evaluator hevaluator window context condition mode outcome houtcome
      rcases hfield with rfl | rfl | rfl
      · exact absurd hevaluator nofun
      · obtain rfl := Option.some.inj hevaluator
        obtain rfl := Option.some.inj houtcome
        rfl
      · obtain rfl := Option.some.inj hevaluator
        cases mode with
        | sync => exact absurd houtcome nofun
        | async =>
            obtain rfl := Option.some.inj houtcome
            rfl
    · left
      simp only [not_or] at hfield
      simp only [registry, if_neg hfield.1, if_neg hfield.2.1, if_neg hfield.2.2]
  obtain ⟨found, result, hfound, hresult, hmatched⟩ :=
    Engine.matched_of_degraded {} .async .lone hdegraded false rule
  have hfoundMatched : found.matched = true := by
    have hrun : (run registry).outcome.toOption.map (·.matched) = some true := rfl
    rw [show (run registry).outcome = .ok found from hfound] at hrun
    exact Option.some.inj hrun
  obtain ⟨hresultMatched, hagree⟩ := hmatched hfoundMatched
  exact ⟨hdegraded, found, result, hfound, hresult, hfoundMatched, hresultMatched, hagree⟩

end PlaybackRules
