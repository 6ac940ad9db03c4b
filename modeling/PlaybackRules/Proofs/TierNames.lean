import PlaybackRules.Observation.BuiltIn
import PlaybackRules.Proofs.Comparison
import PlaybackRules.Proofs.Verdict

/-!
# Tiers by name

A resolution equals a text if their ordinals are the same, and is a member of a list if it is among
the names there.  An ordinal stands for one tier (`Tier.ordinal_inj`), but a text that is not the
written form of any has the ordinal of the unknown tier (`Tier.ordinal_eq_ordinalOfName_iff`), while
names compare without regard to letter case (`Tier.SpelledBy`).  So to equal a text and to be among
it alone come to the same for the written form of a tier, and for any other text too as long as the
tier is known and the text is not another spelling of it (`Field.observe_resolution`).
-/

namespace PlaybackRules

namespace Tier

/-! ## Names and ordinals -/

theorem ordinal_inj {tier other : Tier} : tier.ordinal = other.ordinal ↔ tier = other := by
  constructor
  · cases tier <;> cases other <;> decide
  · rintro rfl
    rfl

theorem ordinalOfName_name (tier : Tier) : ordinalOfName tier.name = tier.ordinal := by
  cases tier <;> decide

theorem ordinalOfName_of_ne {text : String} (h : ∀ tier : Tier, tier.name ≠ text) :
    ordinalOfName text = unknown.ordinal := by
  have hnone : (all.find? fun tier => tier.name == text) = none := by
    simpa using fun tier _ => h tier
  rw [ordinalOfName, hnone]
  rfl

/-- The text is the written form of the tier, letter case apart. -/
def SpelledBy (tier : Tier) (text : String) : Prop :=
  Text.caseFold tier.name = Text.caseFold text

instance (tier : Tier) (text : String) : Decidable (tier.SpelledBy text) :=
  inferInstanceAs (Decidable (_ = _))

theorem spelledBy_name (tier : Tier) : tier.SpelledBy tier.name := rfl

/-- No two tiers have written forms that differ in letter case alone. -/
theorem SpelledBy.unique {tier other : Tier} {text : String} (h : tier.SpelledBy text)
    (h' : other.SpelledBy text) : tier = other := by
  have hfold : Text.caseFold tier.name = Text.caseFold other.name := h.trans h'.symm
  revert hfold
  cases tier <;> cases other <;> decide +kernel

theorem name_inj {tier other : Tier} : tier.name = other.name ↔ tier = other := by
  refine ⟨fun h => ?_, congrArg name⟩
  have hspelled : tier.SpelledBy other.name := congrArg Text.caseFold h
  exact hspelled.unique other.spelledBy_name

/-- The tier with the ordinal of a text is the one that it names or, if it names none, the unknown
one. -/
theorem ordinal_eq_ordinalOfName_iff {tier : Tier} {text : String} :
    tier.ordinal = ordinalOfName text ↔
      tier.name = text ∨ tier = unknown ∧ ∀ other : Tier, other.name ≠ text := by
  by_cases hname : ∃ other : Tier, other.name = text
  · obtain ⟨other, rfl⟩ := hname
    rw [ordinalOfName_name, ordinal_inj, name_inj]
    exact (or_iff_left fun h => h.2 other rfl).symm
  · have hnone : ∀ other : Tier, other.name ≠ text := not_exists.1 hname
    rw [ordinalOfName_of_ne hnone, ordinal_inj]
    simp only [hnone tier, false_or, and_iff_left hnone]

/-- Ordinals and names tell alike whether a text stands for the tier: the text is the written form
of some tier, or it spells the unknown one, or the tier is known and the text does not spell it. -/
def ReadAlike (tier : Tier) (text : String) : Prop :=
  (∃ other : Tier, other.name = text) ∨ unknown.SpelledBy text ∨
    tier ≠ unknown ∧ ¬tier.SpelledBy text

theorem ReadAlike.ordinal_eq_iff {tier : Tier} {text : String} (h : tier.ReadAlike text) :
    tier.ordinal = ordinalOfName text ↔ tier.SpelledBy text := by
  rw [ordinal_eq_ordinalOfName_iff]
  by_cases hname : ∃ other : Tier, other.name = text
  · obtain ⟨other, rfl⟩ := hname
    have hspelled : tier.SpelledBy other.name ↔ tier = other :=
      ⟨fun h => h.unique other.spelledBy_name, fun h => h ▸ tier.spelledBy_name⟩
    rw [name_inj, hspelled]
    exact or_iff_left fun h => h.2 other rfl
  · have hnone : ∀ other : Tier, other.name ≠ text := not_exists.1 hname
    simp only [hnone tier, false_or, and_iff_left hnone]
    rcases h with h | hunknown | ⟨hknown, hnot⟩
    · exact absurd h hname
    · exact ⟨fun h => h ▸ hunknown, fun h => h.unique hunknown⟩
    · exact iff_of_false hknown hnot

end Tier

/-! ## Observations -/

/-- The tier that a field observes, if it observes one. -/
def Field.tier? (field : Field) (session : Session) : Option Tier :=
  match field with
  | sourceResolution => some session.sourceTier
  | outputResolution => some session.outputTier
  | _ => none

/-- The condition with another operator and another threshold. -/
def Condition.test (condition : Condition) (operator : Operator) (value : Threshold) : Condition :=
  { condition with operator, value }

/-- Does a condition on a field match? -/
def Field.Matches (field : Field) (window : Except Failure Binary64) (context : Context)
    (condition : Condition) : Prop :=
  ∃ finding, field.observe window context condition = .ok finding ∧ finding.matched = true

theorem Field.matches_iff_of_tier? {field : Field} {context : Context} {tier : Tier}
    (h : field.tier? context.session = some tier) (window : Except Failure Binary64)
    (condition : Condition) :
    field.Matches window context condition ↔
      (Observation.resolution tier condition).matched = true := by
  have hobserve : field.observe window context condition =
      .ok (Observation.resolution tier condition) := by
    cases field with
    | sourceResolution => cases h; rfl
    | outputResolution => cases h; rfl
    | _ => cases h
  rw [Field.Matches, hobserve]
  simp only [Except.ok.injEq, exists_eq_left']

namespace Observation

variable {tier : Tier} {condition : Condition} {text : String}

theorem matched_resolution_eq_iff :
    (resolution tier (condition.test .eq (.scalar (.str text)))).matched = true ↔
      tier.ordinal = Tier.ordinalOfName text := by
  show Value.same (.int tier.ordinal) (.int (Tier.ordinalOfName text)) = true ↔ _
  rw [Value.same_of_place? rfl rfl, beq_iff_eq, Place.ofInt_inj, Int.natCast_inj]

theorem matched_resolution_isIn_iff :
    (resolution tier (condition.test .isIn (.list [.str text]))).matched = true ↔
      tier.SpelledBy text := by
  show (_ == _ || false) = true ↔ _
  rw [Bool.or_false, beq_iff_eq, Tier.SpelledBy]

theorem matched_resolution_neq (value : Threshold) :
    (resolution tier (condition.test .neq value)).matched =
      !(resolution tier (condition.test .eq value)).matched := rfl

theorem matched_resolution_notIn (items : List Scalar) :
    (resolution tier (condition.test .notIn (.list items))).matched =
      !(resolution tier (condition.test .isIn (.list items))).matched := rfl

end Observation

/-- For the written form of a tier, to equal it and to be in the list of it alone come to the same,
and so do their negations.  For any other text that is so on a known tier that the text does not
spell.  A text that spells no tier at all has the ordinal of the unknown tier: a resolution equals
it if it is unknown, and is in no list of it. -/
theorem Field.observe_resolution {field : Field} {context : Context} {tier : Tier}
    (h : field.tier? context.session = some tier) (window : Except Failure Binary64)
    (condition : Condition) (text : String) :
    let holds (operator : Operator) (value : Threshold) :=
      field.Matches window context (condition.test operator value)
    (tier.ReadAlike text →
      (holds .eq (.scalar (.str text)) ↔ holds .isIn (.list [.str text])) ∧
      (holds .neq (.scalar (.str text)) ↔ holds .notIn (.list [.str text]))) ∧
    ((∀ other : Tier, ¬other.SpelledBy text) →
      (holds .eq (.scalar (.str text)) ↔ tier = .unknown) ∧
      (holds .neq (.scalar (.str text)) ↔ tier ≠ .unknown) ∧
      ¬holds .isIn (.list [.str text]) ∧ holds .notIn (.list [.str text])) := by
  simp only [Field.matches_iff_of_tier? h, Observation.matched_resolution_neq,
    Observation.matched_resolution_notIn, Bool.not_eq_true', ← Bool.not_eq_true,
    Observation.matched_resolution_eq_iff, Observation.matched_resolution_isIn_iff]
  refine ⟨fun halike => ?_, fun hnone => ?_⟩
  · rw [halike.ordinal_eq_iff]
    exact ⟨Iff.rfl, Iff.rfl⟩
  · have hname : ∀ other : Tier, other.name ≠ text :=
      fun other h => hnone other (h ▸ other.spelledBy_name)
    rw [Tier.ordinalOfName_of_ne hname, Tier.ordinal_inj]
    exact ⟨Iff.rfl, Iff.rfl, hnone tier, hnone tier⟩

/-- The written form of the tier, and a text that spells no tier on a session of unknown tier. -/
theorem Field.observe_resolution_uhd4k :
    let condition : Condition := { field := .known .sourceResolution, operator := .eq }
    let large : Context := { Context.lone with session := { Context.lone.session with
      sourceWidth := some 3840, sourceHeight := some 2160 } }
    let holds (context : Context) (operator : Operator) (value : Threshold) :=
      Field.sourceResolution.Matches (.error .noRule) context (condition.test operator value)
    (Field.sourceResolution.tier? large.session = some .uhd4k ∧
      holds large .eq (.scalar (.str "4K")) ∧ holds large .isIn (.list [.str "4K"])) ∧
    Field.sourceResolution.tier? Context.lone.session = some .unknown ∧
      holds .lone .eq (.scalar (.str "8K")) ∧ ¬holds .lone .isIn (.list [.str "8K"]) := by
  intro condition large holds
  have hlarge : Field.sourceResolution.tier? large.session = some .uhd4k := by decide +kernel
  have hlone : Field.sourceResolution.tier? Context.lone.session = some .unknown := by
    decide +kernel
  have hnone : ∀ other : Tier, ¬other.SpelledBy "8K" := by
    intro other
    cases other <;> decide +kernel
  obtain ⟨hnamed, -⟩ := Field.observe_resolution hlarge (.error .noRule) condition "4K"
  obtain ⟨-, hunnamed⟩ := Field.observe_resolution hlone (.error .noRule) condition "8K"
  obtain ⟨heq, -⟩ := hnamed (.inl ⟨.uhd4k, rfl⟩)
  obtain ⟨hunknown, -, hnotIn, -⟩ := hunnamed hnone
  have hequal : holds large .eq (.scalar (.str "4K")) := ⟨_, rfl, by decide +kernel⟩
  exact ⟨⟨hlarge, hequal, heq.1 hequal⟩, hlone, hunknown.2 rfl, hnotIn⟩

/-- An unknown resolution equals a text that names no tier, and a known one does not equal its own
name in another letter case; a list of the text alone has the second resolution, not the first. -/
theorem Field.observe_resolution_disagrees :
    let large : Context := { Context.lone with session := { Context.lone.session with
      sourceWidth := some 3840, sourceHeight := some 2160 } }
    let matched (context : Context) (operator : Operator) (value : Threshold) :=
      (Field.sourceResolution.observe (.error .noRule) context
        { field := .known .sourceResolution, operator, value }).map (·.matched)
    (matched .lone .eq (.scalar (.str "8K")) = .ok true ∧
      matched .lone .isIn (.list [.str "8K"]) = .ok false) ∧
    matched large .eq (.scalar (.str "4k")) = .ok false ∧
      matched large .isIn (.list [.str "4k"]) = .ok true := by
  decide +kernel

end PlaybackRules
