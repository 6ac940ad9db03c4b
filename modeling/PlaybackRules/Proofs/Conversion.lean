import PlaybackRules.Proofs.Counters
import PlaybackRules.Proofs.Entries
import PlaybackRules.Proofs.Findings
import PlaybackRules.Proofs.WrittenAddress

/-!
# Reports as evidence

Nobody checks what an evaluator returns.  A report can be read if its related sessions, where they
count as true, go through as texts, and its details as entries (`Report.IsReadable`).  Then its
evidence shows the report with whatever is empty left out (`ConditionEvidence.Shows`).  Any other
value that is returned closes the condition, with one entry in the log.  So a conversion comes to
evidence in every case, whether the value was returned at once or waited for
(`Engine.conversion_total`).
-/

namespace PlaybackRules

/-! ## Values that are gone through -/

namespace Value

/-- A value is gone through as the characters of a text, the items of a list or the keys of an
object. -/
inductive Lists : Value → List Value → Prop where
  | text (s : String) : Lists (str s) (s.toList.map fun c => str c.toString)
  | list (items : List Value) : Lists (list items) items
  | object (entries : Entries) : Lists (object entries) (entries.map fun (key, _) => str key)

/-- A value is gone through as texts. -/
def ListsTexts (value : Value) (texts : List String) : Prop := value.Lists (texts.map str)

/-- A value is a mapping: an object as it is, and a list whose items go through as a text and a
value, of which the last with a text is kept under it. -/
inductive Maps : Value → Entries → Prop where
  | object (entries : Entries) : Maps (object entries) entries
  | list {items : List Value} {pairs : List (String × Value)} {entries : Entries}
      (hitems : List.Forall₂ (fun item pair => item.Lists [str pair.1, pair.2]) items pairs)
      (hentries : entries.Collects pairs) : Maps (list items) entries

theorem members?_eq_some_iff {value : Value} {items : List Value} :
    value.members? = some items ↔ value.Lists items := by
  constructor
  · intro h
    cases value with
    | str s => obtain rfl := Option.some.inj h; exact .text s
    | list items => obtain rfl := Option.some.inj h; exact .list items
    | object entries => obtain rfl := Option.some.inj h; exact .object entries
    | null | bool | int | float => exact absurd h nofun
  · rintro (_ | _ | _) <;> rfl

theorem text?_eq_some_iff {value : Value} {s : String} : value.text? = some s ↔ value = str s := by
  cases value <;> simp [text?]

theorem mapM_text?_eq_some_iff {items : List Value} {texts : List String} :
    items.mapM text? = some texts ↔ items = texts.map str := by
  simp only [Text.mapM_eq_some_iff, text?_eq_some_iff, ← List.forall₂_map_right_iff,
    List.forall₂_eq_eq_eq]

theorem bind_members?_eq_some_iff {value : Value} {texts : List String} :
    (value.members?.bind (·.mapM text?)) = some texts ↔ value.ListsTexts texts := by
  simp only [Option.bind_eq_some_iff, members?_eq_some_iff, mapM_text?_eq_some_iff,
    exists_eq_right, ListsTexts]

theorem entry?_eq_some_iff {value : Value} {pair : String × Value} :
    value.entry? = some pair ↔ value.Lists [str pair.1, pair.2] := by
  rw [← members?_eq_some_iff]
  unfold entry?
  constructor
  · intro h
    split at h
    case h_1 key second hmembers => obtain rfl := Option.some.inj h; exact hmembers
    case h_2 => exact absurd h nofun
  · intro h
    rw [h]

theorem entries?_list (items : List Value) :
    (list items).entries? = (items.mapM entry?).map (Entries.setAll []) := rfl

/-- A mapping is read as its entries. -/
theorem maps_of_entries? {value : Value} {entries : Entries} (h : value.entries? = some entries) :
    value.Maps entries := by
  cases value with
  | object found => obtain rfl := Option.some.inj h; exact .object found
  | list items =>
      rw [entries?_list] at h
      obtain ⟨pairs, hpairs, rfl⟩ := Option.map_eq_some_iff.1 h
      have hitems := Text.mapM_eq_some_iff.1 hpairs
      exact .list (hitems.imp fun _ _ => entry?_eq_some_iff.1) (Entries.collects_setAll pairs)
  | null | bool | int | float | str => exact absurd h nofun

theorem isSome_entries?_of_maps {value : Value} {entries : Entries} (h : value.Maps entries) :
    value.entries?.isSome = true := by
  cases h with
  | object => rfl
  | list hitems _ =>
      have hpairs := Text.mapM_eq_some_iff.2 (hitems.imp fun _ _ => entry?_eq_some_iff.2)
      rw [entries?_list, hpairs]
      rfl

/-! ### What counts as true is not empty -/

theorem ListsTexts.ne_nil {value : Value} {texts : List String} (h : value.ListsTexts texts)
    (htrue : value.isTruthy = true) : texts ≠ [] := by
  rintro rfl
  unfold ListsTexts at h
  generalize hitems : [].map str = items at h
  cases h with
  | text s =>
      have hempty : s = "" := by simpa using hitems.symm
      rw [hempty] at htrue
      exact absurd htrue (by decide)
  | list =>
      subst hitems
      exact absurd htrue Bool.false_ne_true
  | object entries =>
      obtain rfl : entries = [] := by simpa using hitems.symm
      exact absurd htrue Bool.false_ne_true

theorem Maps.ne_nil {value : Value} {entries : Entries} (h : value.Maps entries)
    (htrue : value.isTruthy = true) : entries ≠ [] := by
  cases h with
  | object =>
      rintro rfl
      exact absurd htrue Bool.false_ne_true
  | list hitems hentries =>
      refine hentries.ne_nil ?_
      rintro rfl
      rw [List.forall₂_nil_right_iff] at hitems
      subst hitems
      exact absurd htrue Bool.false_ne_true

end Value

/-! ## Parts of a report -/

section Part

variable {α : Type} {read : Value → Option α} {value : Value}

theorem Value.part?_of_false (h : value.isTruthy = false) : value.part? read = some none :=
  if_neg (ne_true_of_eq_false h)

theorem Value.part?_of_true (h : value.isTruthy = true) :
    value.part? read = (read value).map some := if_pos h

end Part

/-- A part of evidence is what a value reads as, and is left out if the value does not count as
true. -/
def Value.Trims {α : Type} (Reads : Value → List α → Prop) (value : Value)
    (part : Option (List α)) : Prop :=
  if value.isTruthy then ∃ items, part = some items ∧ items ≠ [] ∧ Reads value items
  else part = none

/-- Can a report be read?  Its related sessions and its details either do not count as true, or are
texts and a mapping. -/
def Report.IsReadable (report : Report) : Prop :=
  (report.related.isTruthy = true → ∃ texts, report.related.ListsTexts texts) ∧
    (report.details.isTruthy = true → ∃ entries, report.details.Maps entries)

/-- Does evidence show what a report says on a condition? -/
structure ConditionEvidence.Shows (evidence : ConditionEvidence) (report : Report)
    (condition : Condition) : Prop where
  field_eq : evidence.field = condition.field.text
  operator_eq : evidence.operator = condition.operator
  threshold_eq : evidence.threshold = condition.threshold
  matched_eq : evidence.matched = report.matched.isTruthy
  actual_eq : evidence.actual = report.actual
  related : report.related.Trims Value.ListsTexts evidence.related
  details : report.details.Trims Value.Maps evidence.details

namespace Report

variable (report : Report)

theorem exists_related? (h : report.related.isTruthy = true →
    ∃ texts, report.related.ListsTexts texts) :
    ∃ part, report.related? = some part ∧ report.related.Trims Value.ListsTexts part := by
  unfold related? Value.Trims
  cases htrue : report.related.isTruthy with
  | false => exact ⟨none, Value.part?_of_false htrue, rfl⟩
  | true =>
      obtain ⟨texts, htexts⟩ := h htrue
      refine ⟨some texts, ?_, texts, rfl, htexts.ne_nil htrue, htexts⟩
      rw [Value.part?_of_true htrue, Value.bind_members?_eq_some_iff.2 htexts]
      rfl

theorem exists_details? (h : report.details.isTruthy = true →
    ∃ entries, report.details.Maps entries) :
    ∃ part, report.details? = some part ∧ report.details.Trims Value.Maps part := by
  unfold details? Value.Trims
  cases htrue : report.details.isTruthy with
  | false => exact ⟨none, Value.part?_of_false htrue, rfl⟩
  | true =>
      obtain ⟨_, hmaps⟩ := h htrue
      obtain ⟨entries, hentries⟩ := Option.isSome_iff_exists.1 (Value.isSome_entries?_of_maps hmaps)
      have hmaps := Value.maps_of_entries? hentries
      refine ⟨some entries, ?_, entries, rfl, hmaps.ne_nil htrue, hmaps⟩
      rw [Value.part?_of_true htrue, hentries]
      rfl

theorem isReadable_of_parts {related : Option (List String)} {details : Option Entries}
    (hrelated : report.related? = some related) (hdetails : report.details? = some details) :
    report.IsReadable := by
  constructor
  · intro htrue
    unfold related? at hrelated
    rw [Value.part?_of_true htrue] at hrelated
    obtain ⟨texts, htexts, -⟩ := Option.map_eq_some_iff.1 hrelated
    exact ⟨texts, Value.bind_members?_eq_some_iff.1 htexts⟩
  · intro htrue
    unfold details? at hdetails
    rw [Value.part?_of_true htrue] at hdetails
    obtain ⟨entries, hentries, -⟩ := Option.map_eq_some_iff.1 hdetails
    exact ⟨entries, Value.maps_of_entries? hentries⟩

/-- A report that can be read gives evidence that shows it. -/
theorem exists_evidence? (h : report.IsReadable) (condition : Condition) :
    ∃ evidence, report.evidence? condition = some evidence ∧ evidence.Shows report condition := by
  obtain ⟨related, hrelated, hrelatedTrims⟩ := report.exists_related? h.1
  obtain ⟨details, hdetails, hdetailsTrims⟩ := report.exists_details? h.2
  unfold evidence?
  rw [hrelated, hdetails]
  exact ⟨_, rfl, rfl, rfl, rfl, rfl, rfl, hrelatedTrims, hdetailsTrims⟩

/-- No other report gives evidence. -/
theorem evidence?_of_not_isReadable (h : ¬report.IsReadable) (condition : Condition) :
    report.evidence? condition = none := by
  rw [Option.eq_none_iff_forall_ne_some]
  intro evidence hevidence
  unfold evidence? at hevidence
  simp only [Option.bind_eq_bind, Option.bind_eq_some_iff] at hevidence
  obtain ⟨related, hrelated, details, hdetails, -⟩ := hevidence
  exact h (report.isReadable_of_parts hrelated hdetails)

end Report

/-! ## Conversions -/

/-- What comes of a value that is returned and is no evidence: the condition fails closed with one
entry in the log, and is counted once with metrics switched on. -/
def Condition.malformed (settings : Settings) (ruleId : String) (condition : Condition) :
    Journaled ConditionEvidence where
  outcome := .ok condition.closed
  events := .logged (.invalidResult condition.field.text ruleId) ::
    if settings.metricsEnabled then [.failed .error] else []

section Conclude

variable (settings : Settings) (ruleId : String) (condition : Condition)

theorem Condition.conclude_of_malformed {outcome : Outcome}
    (h : outcome.judge condition = .error .malformed) :
    condition.conclude (.ok settings) ruleId outcome = condition.malformed settings ruleId := by
  rw [Condition.conclude_ok, h]
  rfl

theorem Condition.conclude_of_isReadable {report : Report} (h : report.IsReadable) :
    ∃ evidence, condition.conclude (.ok settings) ruleId (.report report) =
      ⟨.ok evidence, []⟩ ∧ evidence.Shows report condition := by
  obtain ⟨evidence, hevidence, hshows⟩ := report.exists_evidence? h condition
  refine ⟨evidence, ?_, hshows⟩
  rw [Condition.conclude_ok, Outcome.judge, hevidence]
  rfl

theorem Condition.conclude_of_not_isReadable {report : Report} (h : ¬report.IsReadable) :
    condition.conclude (.ok settings) ruleId (.report report) =
      condition.malformed settings ruleId := by
  apply condition.conclude_of_malformed settings ruleId
  rw [Outcome.judge, report.evidence?_of_not_isReadable h condition]

theorem Condition.errors_malformed (history : List Event) :
    (Metrics.ofEvents (history ++ (condition.malformed settings ruleId).events)).failures.get
        Reason.error.name =
      (Metrics.ofEvents history).failures.get Reason.error.name +
        if settings.metricsEnabled then 1 else 0 := by
  rw [Metrics.get_failures, Metrics.get_failures, List.filterMap_append, List.count_append]
  congr 1
  unfold Condition.malformed
  cases settings.metricsEnabled <;> rfl

end Conclude

/-- The conversion of what a mode gets out of the evaluator of a condition, if it gets anything. -/
def Registry.conversion? (registry : Registry) (settings : Settings) (mode : Mode)
    (context : Context) (ruleId : String) (condition : Condition) :
    Option (Journaled ConditionEvidence) :=
  (registry.outcome? settings mode context condition).map
    (condition.conclude (.ok settings) ruleId)

theorem Registry.conversion?_eq_some {registry : Registry} {settings : Settings} {mode : Mode}
    {context : Context} {ruleId : String} {condition : Condition}
    {conversion : Journaled ConditionEvidence}
    (h : registry.conversion? settings mode context ruleId condition = some conversion) :
    conversion = ⟨.ok (registry.evidence settings mode context condition),
      condition.failureEvents settings ruleId
        (registry.verdict settings mode context condition)⟩ := by
  obtain ⟨outcome, houtcome, rfl⟩ := Option.map_eq_some_iff.1 h
  rw [Condition.conclude_ok, Registry.evidence_eq, houtcome]
  unfold Registry.outcome? at houtcome
  unfold Registry.verdict
  obtain ⟨call, hcall, hanswer⟩ := Option.bind_eq_some_iff.1 houtcome
  rw [hcall]
  simp only [Call.verdict, hanswer]
  rfl

/-- Whatever an evaluator returns, its conversion comes to evidence.  A report that can be read
gives the evidence that shows it, and nothing is recorded; any other report and any other value
closes the condition, which is logged once, and counted once as an error with metrics switched on.

So it is in every group and either mode: each condition of which an outcome is returned, at once or
after waiting, has the evidence of its conversion, and what is recorded of it is what is recorded of
the conversion. -/
theorem Engine.conversion_total (settings : Settings) (ruleId : String) :
    (∀ condition : Condition,
      let convert := condition.conclude (.ok settings) ruleId
      let malformed := condition.malformed settings ruleId
      (∀ report : Report,
        (report.IsReadable → ∃ evidence, convert (.report report) = ⟨.ok evidence, []⟩ ∧
          evidence.Shows report condition) ∧
        (¬report.IsReadable → convert (.report report) = malformed)) ∧
      (∀ value, convert (.other value) = malformed) ∧
      ∀ history, (Metrics.ofEvents (history ++ malformed.events)).failures.get
          Reason.error.name =
        (Metrics.ofEvents history).failures.get Reason.error.name +
          if settings.metricsEnabled then 1 else 0) ∧
    ∀ (engine : Engine) (mode : Mode) (context : Context) (group : ConditionGroup),
      let run := engine.evaluateGroup (.ok settings) mode context ruleId group
      let conversion? := engine.registry.conversion? settings mode context ruleId
      ∃ found, run.outcome = .ok found ∧
        List.Forall₂ (fun condition evidence => ∀ conversion,
          conversion? condition = some conversion → conversion.outcome = .ok evidence)
          group found ∧
        (run.events.filter Event.isRecorded).Perm (group.flatMap fun condition =>
          (conversion? condition).elim
            (condition.failureEvents settings ruleId
              (engine.registry.verdict settings mode context condition))
            Journaled.events) := by
  refine ⟨fun condition => ⟨fun report => ⟨?_, ?_⟩, fun value => ?_, ?_⟩,
    fun engine mode context group => ?_⟩
  · exact condition.conclude_of_isReadable settings ruleId
  · exact condition.conclude_of_not_isReadable settings ruleId
  · exact condition.conclude_of_malformed settings ruleId rfl
  · exact condition.errors_malformed settings ruleId
  · intro run conversion?
    have hrun := engine.evaluateGroup_eq settings mode context ruleId group
    refine ⟨_, congrArg Journaled.outcome hrun, ?_, ?_⟩
    · refine List.forall₂_map_right_iff.2 (List.forall₂_same.2 fun condition _ => ?_)
      intro conversion hconversion
      rw [Registry.conversion?_eq_some hconversion]
    · have hevents : ∀ condition, (conversion? condition).elim
          (condition.failureEvents settings ruleId
            (engine.registry.verdict settings mode context condition)) Journaled.events =
          condition.failureEvents settings ruleId
            (engine.registry.verdict settings mode context condition) := by
        intro condition
        cases hconversion : conversion? condition with
        | none => rfl
        | some conversion =>
            exact congrArg Journaled.events (Registry.conversion?_eq_some hconversion)
      simp only [hevents]
      exact engine.recorded_group settings mode context ruleId group

/-- With metrics switched off, a value that is no report closes its condition uncounted. -/
theorem Condition.malformed_uncounted :
    let settings : Settings := { metricsEnabled := false }
    let registry : Registry := fun _ => some fun _ _ _ => { answer := .now (.other (.int 5)) }
    let condition : Condition := { field := .known .country, operator := .eq }
    let rule : Rule := { id := "rule", name := "Rule", conditions := some [[condition]] }
    let run := ({ registry } : Engine).evaluateRule (.ok settings) .sync
      (Context.lone.withRule rule)
    run.outcome = .ok (.unmatched rule) ∧
      run.events = [.invoked condition, .logged (.invalidResult "country" "rule"),
        .logged (.ruleEvaluated (.unmatched rule) .sync)] ∧
      (Metrics.ofEvents run.events).failures.get Reason.error.name = 0 :=
  ⟨rfl, rfl, rfl⟩

end PlaybackRules
