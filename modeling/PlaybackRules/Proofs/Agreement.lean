import PlaybackRules.Proofs.Walk

/-!
# Agreement of two results

Two results of a rule agree when they say the same of it, and their evidence is related position by
position along the conditions of the rule (`EvaluationResult.Agree`).  Results that come of related
evidence agree as soon as both match or neither does (`Rule.agree_resultBy`), and a rule that
matches goes on to match when more of its conditions do (`Rule.holdsBy_mono`).

Without waiting, a pending condition fails closed, and nothing else changes.  So what matches
without waiting matches with waiting, and the evidence is the same wherever there was nothing to
wait for (`Engine.waiting_of_matched`).
-/

namespace PlaybackRules

/-! ## Lists side by side -/

/-- Two lists are related along a third, position by position. -/
inductive Along {α β : Type} (R : α → β → β → Prop) : List α → List β → List β → Prop where
  | nil : Along R [] [] []
  | cons {a : α} {b c : β} {as : List α} {bs cs : List β} (head : R a b c)
      (tail : Along R as bs cs) : Along R (a :: as) (b :: bs) (c :: cs)

namespace Along

variable {α β : Type} {R : α → β → β → Prop}

theorem map {f g : α → β} : ∀ {as : List α}, (∀ a ∈ as, R a (f a) (g a)) →
    Along R as (as.map f) (as.map g)
  | [], _ => .nil
  | a :: _, h => .cons (h a (List.mem_cons_self ..))
      (map fun b hb => h b (List.mem_cons_of_mem a hb))

theorem mapIdx : ∀ {as : List α} {f g : Nat → α → β}, (∀ i, ∀ a ∈ as, R a (f i a) (g i a)) →
    Along R as (as.mapIdx f) (as.mapIdx g)
  | [], _, _, _ => .nil
  | a :: _, _, _, h => by
      rw [List.mapIdx_cons, List.mapIdx_cons]
      exact .cons (h 0 a (List.mem_cons_self ..))
        (mapIdx fun i b hb => h (i + 1) b (List.mem_cons_of_mem a hb))

end Along

/-! ## Results side by side -/

section Agree

variable (R : Condition → ConditionEvidence → ConditionEvidence → Prop)

/-- The evidence of a group agrees, up to that of its conditions. -/
structure GroupEvidence.Agree (group : ConditionGroup) (found found' : GroupEvidence) : Prop where
  index_eq : found'.index = found.index
  matched_eq : found'.matched = found.matched
  conditions : Along R group found.conditions found'.conditions

/-- The results of a rule agree, up to the evidence of its conditions. -/
structure EvaluationResult.Agree (rule : Rule) (result result' : EvaluationResult) : Prop where
  ruleId_eq : result'.ruleId = result.ruleId
  ruleName_eq : result'.ruleName = result.ruleName
  matched_eq : result'.matched = result.matched
  matchedGroups_eq : result'.matchedGroups = result.matchedGroups
  actions_eq : result'.actions = result.actions
  evidence : Option.Rel (Along (GroupEvidence.Agree R) (rule.conditions.getD [])) result.evidence
    result'.evidence

end Agree

variable {R : Condition → ConditionEvidence → ConditionEvidence → Prop}
  {evidence evidence' : Condition → ConditionEvidence}

theorem Rule.agree_resultBy_of_mem (rule : Rule)
    (hR : ∀ group ∈ rule.conditions.getD [], ∀ condition ∈ group,
      R condition (evidence condition) (evidence' condition))
    (hmatched : (rule.resultBy evidence').matched = (rule.resultBy evidence).matched) :
    (rule.resultBy evidence).Agree R rule (rule.resultBy evidence') := by
  rw [Rule.matched_resultBy, Rule.matched_resultBy] at hmatched
  rw [Rule.resultBy_eq, Rule.resultBy_eq, hmatched]
  cases rule.holdsBy evidence with
  | false => exact ⟨rfl, rfl, rfl, rfl, rfl, .none⟩
  | true =>
      refine ⟨rfl, rfl, rfl, ?_, rfl, .some ?_⟩
      · simp [EvaluationResult.ofEvidence, ConditionGroup.evidenceBy, List.mapIdx_eq_zipIdx_map]
      · exact .mapIdx fun i group hgroup => ⟨rfl, rfl, .map (hR group hgroup)⟩

theorem Rule.agree_resultBy (rule : Rule)
    (hR : ∀ condition, R condition (evidence condition) (evidence' condition))
    (hmatched : (rule.resultBy evidence').matched = (rule.resultBy evidence).matched) :
    (rule.resultBy evidence).Agree R rule (rule.resultBy evidence') :=
  rule.agree_resultBy_of_mem (fun _ _ condition _ => hR condition) hmatched

theorem ConditionGroup.holdsBy_mono
    (h : ∀ condition, (evidence condition).matched = true → (evidence' condition).matched = true)
    (group : ConditionGroup) (hgroup : group.holdsBy evidence = true) :
    group.holdsBy evidence' = true := by
  unfold ConditionGroup.holdsBy groupHolds at *
  rw [List.isEmpty_map, List.any_map, Bool.or_eq_true] at *
  refine hgroup.imp id fun hany => ?_
  obtain ⟨condition, hmem, hcondition⟩ := List.any_eq_true.1 hany
  exact List.any_eq_true.2 ⟨condition, hmem, h condition hcondition⟩

/-- More conditions that match cannot undo the match of a rule. -/
theorem Rule.holdsBy_mono
    (h : ∀ condition, (evidence condition).matched = true → (evidence' condition).matched = true)
    (rule : Rule) (hrule : rule.holdsBy evidence = true) : rule.holdsBy evidence' = true := by
  obtain ⟨groups, hgroups, hall⟩ := (Option.any_eq_true ..).1 hrule
  refine (Option.any_eq_true ..).2 ⟨groups, hgroups, List.all_eq_true.2 fun group hmem => ?_⟩
  exact group.holdsBy_mono h (List.all_eq_true.1 hall group hmem)

/-! ## Without and with waiting -/

/-- Is there something to wait for in the answer of a condition's evaluator? -/
def Registry.awaits (registry : Registry) (settings : Settings) (context : Context)
    (condition : Condition) : Bool :=
  (registry.call? settings context condition).any fun call =>
    match call.answer with
    | .now _ => false
    | .later _ => true

/-- Evidence has the shape of a condition when it repeats what the condition says. -/
structure ConditionEvidence.HasShape (condition : Condition) (evidence : ConditionEvidence) :
    Prop where
  field_eq : evidence.field = condition.field.text
  operator_eq : evidence.operator = condition.operator
  threshold_eq : evidence.threshold = condition.threshold

/-- Two pieces of evidence of one condition, which are the same unless the condition waits. -/
structure ConditionEvidence.SameUnless (waits : Condition → Bool) (condition : Condition)
    (evidence evidence' : ConditionEvidence) : Prop where
  shape : evidence.HasShape condition
  shape' : evidence'.HasShape condition
  eq_of_not_waits : waits condition = false → evidence' = evidence

theorem Outcome.hasShape_judge (condition : Condition) (outcome : Outcome) :
    (condition.underVerdict (outcome.judge condition)).HasShape condition := by
  cases outcome with
  | report r =>
      simp only [Outcome.judge]
      cases hevidence : r.evidence? condition with
      | none => exact ⟨rfl, rfl, rfl⟩
      | some evidence =>
          obtain ⟨related, details, rfl⟩ := Report.evidence?_eq_some hevidence
          exact ⟨rfl, rfl, rfl⟩
  | other value => exact ⟨rfl, rfl, rfl⟩
  | failed failure => exact ⟨rfl, rfl, rfl⟩

variable (registry : Registry) (settings : Settings) (context : Context) (condition : Condition)

theorem Registry.hasShape_evidence (mode : Mode) :
    (registry.evidence settings mode context condition).HasShape condition := by
  rw [Registry.evidence_eq]
  cases registry.outcome? settings mode context condition with
  | none => exact ⟨rfl, rfl, rfl⟩
  | some outcome => exact outcome.hasShape_judge condition

/-- Without waiting, there is no outcome where there is something to wait for; nothing else
changes. -/
theorem Registry.outcome?_sync :
    registry.outcome? settings .sync context condition =
      if registry.awaits settings context condition then none
      else registry.outcome? settings .async context condition := by
  unfold Registry.outcome? Registry.awaits
  cases registry.call? settings context condition with
  | none => rfl
  | some call =>
      obtain ⟨asked, answer⟩ := call
      cases answer <;> rfl

theorem Registry.evidence_of_not_awaits (h : registry.awaits settings context condition = false) :
    registry.evidence settings .async context condition =
      registry.evidence settings .sync context condition := by
  rw [Registry.evidence_eq, Registry.evidence_eq, Registry.outcome?_sync, h]
  rfl

theorem Registry.evidence_of_awaits (h : registry.awaits settings context condition = true) :
    registry.evidence settings .sync context condition = condition.closed := by
  rw [Registry.evidence_eq, Registry.outcome?_sync, h]
  rfl

theorem Registry.matched_async_of_sync
    (h : (registry.evidence settings .sync context condition).matched = true) :
    (registry.evidence settings .async context condition).matched = true := by
  cases hawaits : registry.awaits settings context condition with
  | false => rwa [registry.evidence_of_not_awaits settings context condition hawaits]
  | true =>
      rw [registry.evidence_of_awaits settings context condition hawaits] at h
      exact absurd h Bool.false_ne_true

/-- A rule that matches without waiting matches with waiting, and agrees with it: its evidence is
the same wherever there is nothing to wait for. -/
theorem Engine.waiting_of_matched (engine : Engine) (settings : Settings) (context : Context)
    (rule : Rule) {result : EvaluationResult}
    (h : (engine.evaluateRule (.ok settings) .sync (context.withRule rule)).outcome = .ok result)
    (hmatched : result.matched = true) :
    ∃ result',
      (engine.evaluateRule (.ok settings) .async (context.withRule rule)).outcome = .ok result' ∧
      result'.matched = true ∧
      result.Agree (ConditionEvidence.SameUnless
        (engine.registry.awaits settings (context.withRule rule))) rule result' := by
  cases hstuck : engine.isStuck .sync (rule.conditions.getD []) with
  | true =>
      rw [engine.evaluateRule_stuck settings .sync context rule hstuck] at h
      obtain rfl := Except.ok.inj h
      exact absurd hmatched Bool.false_ne_true
  | false =>
      have hsync := engine.evaluateRule_ok settings .sync context rule hstuck
      have hasync := engine.evaluateRule_ok settings .async context rule (by simp [Engine.isStuck])
      rw [hsync] at h
      obtain rfl := Except.ok.inj h
      rw [Rule.matched_resultBy] at hmatched
      have hmatched' := rule.holdsBy_mono
        (engine.registry.matched_async_of_sync settings (context.withRule rule)) hmatched
      refine ⟨_, congrArg Journaled.outcome hasync, (rule.matched_resultBy _).trans hmatched',
        rule.agree_resultBy (fun condition => ?_) ?_⟩
      · exact ⟨engine.registry.hasShape_evidence settings _ condition .sync,
          engine.registry.hasShape_evidence settings _ condition .async,
          engine.registry.evidence_of_not_awaits settings _ condition⟩
      · rw [Rule.matched_resultBy, Rule.matched_resultBy, hmatched, hmatched']

/-- A group in which one condition is answered at once, and the other is waited for. -/
theorem Engine.waiting_of_matched_mixed :
    let registry : Registry := fun field => some fun _ _ _ =>
      { answer :=
          if field = .isTranscoding then .now (.report { matched := .bool true, actual := .null })
          else .later (.task 2 (.report { matched := .bool true, actual := .str "movie" })) }
    let group : ConditionGroup := [
      { field := .known .isTranscoding, operator := .eq },
      { field := .known .mediaType, operator := .eq }]
    let rule : Rule := { id := "rule", name := "Rule", conditions := some [group] }
    ∃ result result',
      (({ registry } : Engine).evaluateRule (.ok {}) .sync (Context.lone.withRule rule)).outcome =
        .ok result ∧ result.matched = true ∧
      (({ registry } : Engine).evaluateRule (.ok {}) .async (Context.lone.withRule rule)).outcome =
        .ok result' ∧
      result'.matched = true ∧
      result.Agree (ConditionEvidence.SameUnless
        (registry.awaits {} (Context.lone.withRule rule))) rule result' := by
  intro registry group rule
  obtain ⟨result', hrun, hagree⟩ :=
    Engine.waiting_of_matched { registry } {} .lone rule rfl rfl
  exact ⟨_, result', rfl, rfl, hrun, hagree⟩

end PlaybackRules
