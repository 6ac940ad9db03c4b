import PlaybackRules.Proofs.TierNames

/-!
# Tiers in order

The ordering operators compare the ordinal of the observed tier with that of the text
(`Observation.matched_resolution_ordered_iff`).  A text that names no tier stands for the unknown
one, which is below all others: every resolution is at or above it and none is below.  So a
mistyped tier tells the known resolutions from the unknown ones.  The ordinal of a text is the same
in another letter case as long as neither spelling, or each of them, is the written form of a known
tier (`Tier.ordinalOfName_congr`).
-/

namespace PlaybackRules

/-! ## Order of naturals -/

/-- The operators that apply to numbers alone. -/
def Operator.orderings : List Operator := [gt, gte, lt, lte]

/-- What an ordering operator says of two naturals; the others say nothing. -/
def Operator.Orders : Operator → Nat → Nat → Prop
  | gt, m, n => n < m
  | gte, m, n => n ≤ m
  | lt, m, n => m < n
  | lte, m, n => m ≤ n
  | _, _, _ => False

theorem Value.compare_ordering_iff {op : Operator} (h : op ∈ Operator.orderings) {m n : Nat} :
    (Value.int m).compare op (.int n) = true ↔ op.Orders m n := by
  simp only [Operator.orderings, List.mem_cons, List.not_mem_nil, or_false] at h
  rcases h with rfl | rfl | rfl | rfl
  · rw [compare_gt_iff]
    simp [number?, Operator.Orders]
  · rw [compare_gte_iff]
    simp [number?, Operator.Orders]
  · rw [compare_lt_iff]
    simp [number?, Operator.Orders]
  · rw [compare_lte_iff]
    simp [number?, Operator.Orders]

/-! ## Ordinals of texts -/

namespace Tier

variable {text text' : String}

/-- The text is the written form of a tier other than the unknown one. -/
def NamesKnown (text : String) : Prop := ∃ tier : Tier, tier ≠ unknown ∧ tier.name = text

theorem ordinalOfName_of_not_namesKnown (h : ¬NamesKnown text) :
    ordinalOfName text = unknown.ordinal := by
  by_cases hname : ∃ tier : Tier, tier.name = text
  · obtain ⟨tier, rfl⟩ := hname
    have hunknown : tier = unknown := by
      by_contra hne
      exact h ⟨tier, hne, rfl⟩
    rw [ordinalOfName_name, hunknown]
  · exact ordinalOfName_of_ne (not_exists.1 hname)

/-- Two spellings have the same ordinal if each of them is the written form of a known tier or
neither is. -/
theorem ordinalOfName_congr (hfold : Text.caseFold text = Text.caseFold text')
    (hknown : NamesKnown text ↔ NamesKnown text') : ordinalOfName text = ordinalOfName text' := by
  by_cases h : NamesKnown text
  · obtain ⟨other, -, hother⟩ := hknown.1 h
    obtain ⟨tier, -, htier⟩ := h
    subst htier hother
    have hspelled : tier.SpelledBy other.name := hfold
    rw [hspelled.unique other.spelledBy_name]
  · rw [ordinalOfName_of_not_namesKnown h, ordinalOfName_of_not_namesKnown (mt hknown.2 h)]

theorem unknown_ordinal_le (tier : Tier) : unknown.ordinal ≤ tier.ordinal := Nat.zero_le _

theorem unknown_ordinal_lt_iff {tier : Tier} :
    unknown.ordinal < tier.ordinal ↔ tier ≠ unknown := by
  rw [Nat.lt_iff_le_and_ne, and_iff_right tier.unknown_ordinal_le, ne_eq, ordinal_inj, eq_comm]

end Tier

/-! ## Observations -/

theorem Observation.matched_resolution_ordered_iff {tier : Tier} {condition : Condition}
    {op : Operator} (h : op ∈ Operator.orderings) {text : String} :
    (resolution tier (condition.test op (.scalar (.str text)))).matched = true ↔
      op.Orders tier.ordinal (Tier.ordinalOfName text) := by
  rw [← Value.compare_ordering_iff h]
  simp only [Operator.orderings, List.mem_cons, List.not_mem_nil, or_false] at h
  rcases h with rfl | rfl | rfl | rfl <;>
    simp only [resolution, Condition.test, Condition.threshold, Threshold.toValue, Scalar.toValue]

/-- A text that spells no tier stands for the unknown one: under `gt` it matches the known tiers,
under `lte` the unknown one, under `gte` all of them and under `lt` none.  Two texts that differ in
letter case alone match alike under each of the four, if both are written forms of known tiers or
neither is. -/
theorem Field.observe_resolution_ordered {field : Field} {context : Context} {tier : Tier}
    (h : field.tier? context.session = some tier) (window : Except Failure Binary64)
    (condition : Condition) :
    let holds (operator : Operator) (text : String) :=
      field.Matches window context (condition.test operator (.scalar (.str text)))
    (∀ text, (∀ other : Tier, ¬other.SpelledBy text) →
      (holds .gt text ↔ tier ≠ .unknown) ∧ holds .gte text ∧
        ¬holds .lt text ∧ (holds .lte text ↔ tier = .unknown)) ∧
    ∀ text text', Text.caseFold text = Text.caseFold text' →
      (Tier.NamesKnown text ↔ Tier.NamesKnown text') →
      ∀ op ∈ Operator.orderings, (holds op text ↔ holds op text') := by
  intro holds
  have hholds : ∀ op ∈ Operator.orderings, ∀ text,
      holds op text ↔ op.Orders tier.ordinal (Tier.ordinalOfName text) := fun op hop text =>
    (Field.matches_iff_of_tier? h window _).trans (Observation.matched_resolution_ordered_iff hop)
  refine ⟨fun text hnone => ?_, fun text text' hfold hknown op hop => ?_⟩
  · have hname : ∀ other : Tier, other.name ≠ text :=
      fun other hother => hnone other (hother ▸ other.spelledBy_name)
    have hlt : Tier.unknown.ordinal < tier.ordinal ↔ tier ≠ .unknown := Tier.unknown_ordinal_lt_iff
    rw [hholds .gt (by decide), hholds .gte (by decide), hholds .lt (by decide),
      hholds .lte (by decide), Tier.ordinalOfName_of_ne hname]
    refine ⟨hlt, tier.unknown_ordinal_le, tier.unknown_ordinal_le.not_gt, ?_⟩
    exact not_lt.symm.trans ((not_congr hlt).trans not_not)
  · rw [hholds op hop, hholds op hop, Tier.ordinalOfName_congr hfold hknown]

/-- On a large frame, a text that names no tier, in two letter cases. -/
theorem Field.observe_resolution_ordered_8K :
    let condition : Condition := { field := .known .sourceResolution, operator := .gt }
    let large : Context := { Context.lone with session := { Context.lone.session with
      sourceWidth := some 3840, sourceHeight := some 2160 } }
    let holds (operator : Operator) (text : String) :=
      Field.sourceResolution.Matches (.error .noRule) large
        (condition.test operator (.scalar (.str text)))
    Field.sourceResolution.tier? large.session = some .uhd4k ∧
      (∀ other : Tier, ¬other.SpelledBy "8K") ∧ Text.caseFold "8K" = Text.caseFold "8k" ∧
      (Tier.NamesKnown "8K" ↔ Tier.NamesKnown "8k") ∧
      Operator.gt ∈ Operator.orderings ∧ holds .gt "8K" ∧ holds .gt "8k" := by
  intro condition large holds
  have hlarge : Field.sourceResolution.tier? large.session = some .uhd4k := by decide +kernel
  have hnone : ∀ other : Tier, ¬other.SpelledBy "8K" := by
    intro other
    cases other <;> decide +kernel
  have hfold : Text.caseFold "8K" = Text.caseFold "8k" := by decide +kernel
  have hknown : Tier.NamesKnown "8K" ↔ Tier.NamesKnown "8k" := by
    refine iff_of_false ?_ ?_ <;> rintro ⟨tier, -, htier⟩ <;> revert htier <;>
      cases tier <;> decide
  have hgt : Operator.gt ∈ Operator.orderings := by decide
  obtain ⟨hunnamed, hcase⟩ :=
    Field.observe_resolution_ordered hlarge (.error .noRule) condition
  have hmatches : holds .gt "8K" := (hunnamed "8K" hnone).1.2 (by decide)
  exact ⟨hlarge, hnone, hfold, hknown, hgt, hmatches, (hcase _ _ hfold hknown .gt hgt).1 hmatches⟩

/-- A large frame is above a text that names no tier, and a smaller one reaches the name of a larger
tier if that is written in another letter case. -/
theorem Field.observe_resolution_mistyped :
    let frame (width height : Int) : Context := { Context.lone with
      session := { Context.lone.session with
        sourceWidth := some width, sourceHeight := some height } }
    let matched (context : Context) (operator : Operator) (text : String) :=
      (Field.sourceResolution.observe (.error .noRule) context
        { field := .known .sourceResolution, operator, value := .scalar (.str text) }).map
          (·.matched)
    ((∀ other : Tier, ¬other.SpelledBy "8K") ∧ matched (frame 3840 2160) .gt "8K" = .ok true) ∧
      Text.caseFold "4K" = Text.caseFold "4k" ∧
      matched (frame 1920 1080) .gte "4K" = .ok false ∧
      matched (frame 1920 1080) .gte "4k" = .ok true := by
  refine ⟨⟨fun other => ?_, by decide +kernel⟩, by decide +kernel⟩
  cases other <;> decide +kernel

end PlaybackRules
