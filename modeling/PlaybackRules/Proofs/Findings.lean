import PlaybackRules.Proofs.Agreement
import PlaybackRules.Proofs.Meaning

/-!
# Findings in two contexts

A built-in observation answers at once, and its finding can always be read as evidence
(`Registry.verdict_builtIn`).  So two contexts in which a rule's conditions find the same, up to a
relation of the related sessions, give results that agree (`Engine.agree_builtIn`).
-/

namespace PlaybackRules

/-! ## Findings as evidence -/

/-- The observation of a field succeeds and finds the given value. -/
def Field.Finds (field : Field) (window : Except Failure Binary64) (context : Context)
    (condition : Condition) (actual : Value) : Prop :=
  ∃ finding, field.observe window context condition = .ok finding ∧ finding.actual = actual

theorem Field.finds_iff_of_observe {field : Field} {window : Except Failure Binary64}
    {context : Context} {condition : Condition} {finding : Finding} {actual : Value}
    (h : field.observe window context condition = .ok finding) :
    field.Finds window context condition actual ↔ actual = finding.actual := by
  unfold Field.Finds
  simp only [h, Except.ok.injEq, exists_eq_left']
  exact eq_comm

/-- The evidence that a finding gives for a condition; what is empty is left out. -/
def Finding.evidence (finding : Finding) (condition : Condition) : ConditionEvidence where
  field := condition.field.text
  operator := condition.operator
  threshold := condition.threshold
  actual := finding.actual
  matched := finding.matched
  related := finding.related.filter fun ids => !ids.isEmpty
  details := finding.details.filter fun entries => !entries.isEmpty

theorem Value.mapM_text?_str : ∀ texts : List String,
    (texts.map Value.str).mapM Value.text? = some texts
  | [] => rfl
  | text :: texts => by
      rw [List.map_cons, List.mapM_cons, mapM_text?_str texts]
      rfl

theorem Finding.related?_toReport (finding : Finding) :
    finding.toReport.related? = some (finding.related.filter fun ids => !ids.isEmpty) := by
  unfold Report.related? Finding.toReport
  cases finding.related with
  | none => rfl
  | some ids =>
      cases ids with
      | nil => rfl
      | cons id ids =>
          show Option.map some (((id :: ids).map Value.str).mapM Value.text?) = _
          rw [Value.mapM_text?_str]
          rfl

theorem Finding.details?_toReport (finding : Finding) :
    finding.toReport.details? = some (finding.details.filter fun entries => !entries.isEmpty) := by
  unfold Report.details? Finding.toReport
  cases finding.details with
  | none => rfl
  | some entries => cases entries <;> rfl

theorem Finding.evidence?_toReport (finding : Finding) (condition : Condition) :
    finding.toReport.evidence? condition = some (finding.evidence condition) := by
  unfold Report.evidence?
  rw [Finding.related?_toReport, Finding.details?_toReport]
  rfl

theorem Registry.verdict_unknown (registry : Registry) (settings : Settings) (mode : Mode)
    (context : Context) {condition : Condition} (h : condition.field.field? = none) :
    registry.verdict settings mode context condition = .error .unknownField := by
  unfold Registry.verdict Registry.call?
  rw [h]
  rfl

/-- A condition comes to what its field's observation finds, and fails closed when that fails. -/
theorem Registry.verdict_builtIn (settings : Settings) (mode : Mode) (context : Context)
    {condition : Condition} {field : Field} (h : condition.field.field? = some field) :
    Registry.builtIn.verdict settings mode context condition =
      match field.observe (.ok settings.defaultWindow) context condition with
      | .ok finding => .ok (finding.evidence condition)
      | .error failure => .error (.failed failure) := by
  unfold Registry.verdict Registry.call?
  rw [h]
  show Outcome.judge condition (match field.observe _ context condition with
    | .ok finding => .report finding.toReport
    | .error failure => .failed failure) = _
  cases field.observe (.ok settings.defaultWindow) context condition with
  | error failure => rfl
  | ok finding =>
      simp only [Outcome.judge, Finding.evidence?_toReport]

/-! ## Agreement -/

/-- Two computations both fail, or both succeed with related results. -/
inductive Alike {ε α : Type} (R : α → α → Prop) : Except ε α → Except ε α → Prop where
  | ok {a b : α} (h : R a b) : Alike R (.ok a) (.ok b)
  | error (e e' : ε) : Alike R (.error e) (.error e')

theorem Alike.refl {ε α : Type} {R : α → α → Prop} (hR : ∀ a, R a a) :
    ∀ x : Except ε α, Alike R x x
  | .ok a => .ok (hR a)
  | .error e => .error e e

theorem Alike.mono {ε α : Type} {R Q : α → α → Prop} {x x' : Except ε α} (hx : Alike R x x')
    (h : ∀ a a', R a a' → Q a a') : Alike Q x x' := by
  cases hx with
  | ok hR => exact .ok (h _ _ hR)
  | error e e' => exact .error e e'

theorem Alike.bind {ε α β : Type} {R : α → α → Prop} {Q : β → β → Prop} {x x' : Except ε α}
    {f f' : α → Except ε β} (hx : Alike R x x') (hf : ∀ a a', R a a' → Alike Q (f a) (f' a')) :
    Alike Q (x >>= f) (x' >>= f') := by
  cases hx with
  | ok h => exact hf _ _ h
  | error e e' => exact .error e e'

section UpTo

variable (S : List String → List String → Prop)

/-- Two findings are the same up to a relation of the related sessions; details aside. -/
structure Finding.AgreeUpTo (finding finding' : Finding) : Prop where
  matched_eq : finding'.matched = finding.matched
  actual_eq : finding'.actual = finding.actual
  related : Option.Rel S finding.related finding'.related

/-- Two pieces of evidence of a condition are the same up to a relation of the related sessions;
details aside. -/
structure ConditionEvidence.AgreeUpTo (condition : Condition)
    (evidence evidence' : ConditionEvidence) : Prop where
  shape : evidence.HasShape condition
  shape' : evidence'.HasShape condition
  matched_eq : evidence'.matched = evidence.matched
  actual_eq : evidence'.actual = evidence.actual
  related : Option.Rel S evidence.related evidence'.related

end UpTo

variable {S : List String → List String → Prop}

theorem Finding.AgreeUpTo.refl (hS : ∀ ids, S ids ids) (finding : Finding) :
    finding.AgreeUpTo S finding := by
  refine ⟨rfl, rfl, ?_⟩
  cases finding.related with
  | none => exact .none
  | some ids => exact .some (hS ids)

theorem Finding.alike_of_eq (hS : ∀ ids, S ids ids) {found found' : Except Failure Finding}
    (h : found' = found) : Alike (Finding.AgreeUpTo S) found found' := by
  rw [h]
  exact .refl (Finding.AgreeUpTo.refl hS) found

theorem Finding.AgreeUpTo.evidence (hS : ∀ ids ids', S ids ids' → ids'.isEmpty = ids.isEmpty)
    {finding finding' : Finding} (h : finding.AgreeUpTo S finding') (condition : Condition) :
    (finding.evidence condition).AgreeUpTo S condition (finding'.evidence condition) := by
  refine ⟨⟨rfl, rfl, rfl⟩, ⟨rfl, rfl, rfl⟩, h.matched_eq, h.actual_eq, ?_⟩
  have hrelated := h.related
  unfold Finding.evidence
  generalize finding.related = related, finding'.related = related' at hrelated ⊢
  cases hrelated with
  | none => exact .none
  | @some ids ids' hids =>
      simp only [Option.filter_some, hS ids ids' hids]
      cases ids.isEmpty with
      | true => exact .none
      | false => exact .some hids

theorem Condition.agree_underVerdict {condition : Condition}
    {verdict verdict' : Except Closing ConditionEvidence}
    (h : Alike (ConditionEvidence.AgreeUpTo S condition) verdict verdict') :
    (condition.underVerdict verdict).AgreeUpTo S condition (condition.underVerdict verdict') := by
  cases h with
  | ok h => exact h
  | error => exact ⟨⟨rfl, rfl, rfl⟩, ⟨rfl, rfl, rfl⟩, rfl, rfl, .none⟩

variable {context context' : Context} (settings : Settings) (mode : Mode)

/-- A condition comes to the same in two contexts in which its field finds the same. -/
theorem Registry.alike_verdict_builtIn (hS : ∀ ids ids', S ids ids' → ids'.isEmpty = ids.isEmpty)
    {condition : Condition} (h : ∀ field, condition.field.field? = some field →
      Alike (Finding.AgreeUpTo S) (field.observe (.ok settings.defaultWindow) context condition)
        (field.observe (.ok settings.defaultWindow) context' condition)) :
    Alike (ConditionEvidence.AgreeUpTo S condition)
      (Registry.builtIn.verdict settings mode context condition)
      (Registry.builtIn.verdict settings mode context' condition) := by
  cases hfield : condition.field.field? with
  | none =>
      rw [Registry.verdict_unknown _ settings mode context hfield,
        Registry.verdict_unknown _ settings mode context' hfield]
      exact .error _ _
  | some field =>
      rw [Registry.verdict_builtIn settings mode context hfield,
        Registry.verdict_builtIn settings mode context' hfield]
      have hfound := h field hfield
      generalize field.observe (.ok settings.defaultWindow) context condition = found,
        field.observe (.ok settings.defaultWindow) context' condition = found' at hfound ⊢
      cases hfound with
      | ok h => exact .ok (h.evidence hS condition)
      | error => exact .error _ _

/-! ## Rules -/

theorem Rule.holdsBy_congr {evidence evidence' : Condition → ConditionEvidence} (rule : Rule)
    (h : ∀ group ∈ rule.conditions.getD [], ∀ condition ∈ group,
      (evidence' condition).matched = (evidence condition).matched) :
    rule.holdsBy evidence' = rule.holdsBy evidence := by
  rw [Bool.eq_iff_iff, Rule.holdsBy_iff, Rule.holdsBy_iff]
  refine exists_congr fun groups => and_congr_right fun hgroups => ?_
  rw [hgroups, Option.getD_some] at h
  refine forall₂_congr fun group hgroup => or_congr_right ?_
  refine exists_congr fun condition => and_congr_right fun hcondition => ?_
  rw [h group hgroup condition hcondition]

/-- A rule comes to the same in two contexts in which its conditions do. -/
theorem Engine.agree_builtIn (suspends : Bool) (rule : Rule)
    (h : ∀ group ∈ rule.conditions.getD [], ∀ condition ∈ group,
      Alike (ConditionEvidence.AgreeUpTo S condition)
        (Registry.builtIn.verdict settings mode (context.withRule rule) condition)
        (Registry.builtIn.verdict settings mode (context'.withRule rule) condition)) :
    let run (context : Context) :=
      ({ suspends } : Engine).evaluateRule (.ok settings) mode (context.withRule rule)
    ∃ result result', (run context).outcome = .ok result ∧ (run context').outcome = .ok result' ∧
      result.Agree (ConditionEvidence.AgreeUpTo S) rule result' := by
  intro run
  refine ⟨_, _, Engine.outcome_evaluateRule settings mode context { suspends } rule,
    Engine.outcome_evaluateRule settings mode context' { suspends } rule, ?_⟩
  unfold Engine.resultFor
  cases ({ suspends } : Engine).isStuck mode (rule.conditions.getD []) with
  | true => exact ⟨rfl, rfl, rfl, rfl, rfl, .none⟩
  | false =>
      have hevidence : ∀ group ∈ rule.conditions.getD [], ∀ condition ∈ group,
          (Registry.builtIn.evidence settings mode (context.withRule rule) condition).AgreeUpTo S
            condition
            (Registry.builtIn.evidence settings mode (context'.withRule rule) condition) :=
        fun group hgroup condition hcondition =>
          Condition.agree_underVerdict (h group hgroup condition hcondition)
      refine rule.agree_resultBy_of_mem hevidence ?_
      rw [Rule.matched_resultBy, Rule.matched_resultBy]
      exact rule.holdsBy_congr fun group hgroup condition hcondition =>
        (hevidence group hgroup condition hcondition).matched_eq

end PlaybackRules
