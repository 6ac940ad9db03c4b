import PlaybackRules.Proofs.TierOrder

/-!
# The tier of a frame

A frame falls into the first tier, from the highest down, whose bound one of its two dimensions
reaches.  As the tiers come in falling order, that is the higher of the tiers that each dimension
has alone (`Tier.ordinal_ofFrame_eq_max`), so a larger frame never has a lower tier, and the tier is
unknown just where neither dimension is positive.  A transcoded session is a downgrade if the
maximum over its source exceeds the maximum over what is delivered (`Tier.number_isMaximum`).  The
unknown tier is the lowest, so a session of which nothing is known to be delivered is a downgrade as
soon as it is transcoded and one dimension of its source is known
(`Field.observe_downgrade_of_absent`).
-/

namespace PlaybackRules

theorem Place.below_ofInt {m n : Int} : (ofInt m).below (ofInt n) = decide (m < n) := by
  have hmul : m * Binary64.one < n * Binary64.one ↔ m < n :=
    Int.mul_lt_mul_right (Int.natCast_pos.2 Binary64.one_pos)
  rw [ofInt, ofInt, below]
  exact decide_eq_decide.2 hmul

namespace Tier

/-! ## The first bound that is reached -/

/-- A tier with its least width and its least height. -/
abbrev Bound := Tier × Int × Int

/-- The ordinal of the first bound that is reached, or of the lowest tier with a name if none is. -/
def firstReached (bounds : List Bound) (reached : Bound → Bool) : Nat :=
  match bounds.find? reached with
  | some bound => bound.1.ordinal
  | none => sd.ordinal

/-- The bounds come in falling order and none is below the lowest tier. -/
def Falling (bounds : List Bound) : Prop :=
  bounds.Pairwise (fun high low => low.1.ordinal ≤ high.1.ordinal) ∧
    ∀ bound ∈ bounds, sd.ordinal ≤ bound.1.ordinal

theorem Falling.tail {bound : Bound} {bounds : List Bound} (h : Falling (bound :: bounds)) :
    Falling bounds :=
  ⟨(List.pairwise_cons.1 h.1).2, fun low hlow => h.2 low (List.mem_cons_of_mem bound hlow)⟩

theorem falling_bounds : Falling bounds := by
  unfold Falling
  decide

section FirstReached

variable {bounds : List Bound} {reached reached' : Bound → Bool}

theorem firstReached_of_true {bound : Bound} (h : reached bound = true) :
    firstReached (bound :: bounds) reached = bound.1.ordinal := by
  rw [firstReached, List.find?_cons_of_pos h]

theorem firstReached_of_false {bound : Bound} (h : reached bound = false) :
    firstReached (bound :: bounds) reached = firstReached bounds reached := by
  rw [firstReached, List.find?_cons_of_neg (ne_true_of_eq_false h), firstReached]

theorem firstReached_pos (hfalling : Falling bounds) : 0 < firstReached bounds reached := by
  have hpos : 0 < sd.ordinal := by decide
  unfold firstReached
  split
  · next bound hbound => exact hpos.trans_le (hfalling.2 bound (List.mem_of_find?_eq_some hbound))
  · exact hpos

theorem firstReached_le {bound : Bound} (h : Falling (bound :: bounds)) :
    firstReached bounds reached ≤ bound.1.ordinal := by
  unfold firstReached
  split
  · next low hlow => exact (List.pairwise_cons.1 h.1).1 low (List.mem_of_find?_eq_some hlow)
  · exact h.2 bound (List.mem_cons_self ..)

/-- What is reached in either of two ways is the higher of what is reached in each. -/
theorem firstReached_or (h : Falling bounds) :
    firstReached bounds (fun bound => reached bound || reached' bound) =
      max (firstReached bounds reached) (firstReached bounds reached') := by
  induction bounds with
  | nil => exact (max_self _).symm
  | cons bound bounds ih =>
      -- a way that reaches this bound is not overtaken by one that only reaches a later bound
      have hrest {way : Bound → Bool} : firstReached bounds way ≤ bound.1.ordinal :=
        firstReached_le h
      cases hleft : reached bound with
      | true =>
          rw [firstReached_of_true (by rw [hleft, Bool.true_or]), firstReached_of_true hleft]
          cases hright : reached' bound with
          | true => rw [firstReached_of_true hright, max_self]
          | false => rw [firstReached_of_false hright, max_eq_left hrest]
      | false =>
          cases hright : reached' bound with
          | true =>
              rw [firstReached_of_true (by rw [hright, Bool.or_true]), firstReached_of_false hleft,
                firstReached_of_true hright, max_eq_right hrest]
          | false =>
              rw [firstReached_of_false (by rw [hleft, hright, Bool.or_false]),
                firstReached_of_false hleft, firstReached_of_false hright, ih h.tail]

theorem firstReached_mono (h : Falling bounds)
    (himp : ∀ bound, reached bound = true → reached' bound = true) :
    firstReached bounds reached ≤ firstReached bounds reached' := by
  have hor : (fun bound => reached bound || reached' bound) = reached' := by
    funext bound
    cases hreached : reached bound with
    | true => rw [himp bound hreached, Bool.true_or]
    | false => exact Bool.false_or _
  rw [← hor, firstReached_or h]
  exact le_max_left _ _

end FirstReached

/-! ## The two dimensions -/

section OfFrame

variable {width height : Option Place}

theorem ordinal_ofFrame_of_absent (h : usable width = none ∧ usable height = none) :
    (ofFrame width height).ordinal = unknown.ordinal := by
  unfold ofFrame
  rw [h.1, h.2]
  rfl

theorem ordinal_ofFrame_of_usable (h : ¬(usable width = none ∧ usable height = none)) :
    (ofFrame width height).ordinal = firstReached bounds fun (_, w, h) =>
      reaches (usable width) w || reaches (usable height) h := by
  have hsome : ¬((usable width).isNone && (usable height).isNone) = true := by
    simpa only [Bool.and_eq_true, Option.isNone_iff_eq_none] using h
  have hfound : ∀ found : Option Bound,
      ordinal (match found with | some (tier, _, _) => tier | none => sd) =
        match found with | some bound => bound.1.ordinal | none => sd.ordinal := by
    rintro (_ | bound) <;> rfl
  unfold firstReached
  rw [← hfound]
  exact congrArg ordinal (if_neg hsome)

/-- The tier of a frame hangs on its usable dimensions alone. -/
theorem ofFrame_congr {width' height' : Option Place} (hwidth : usable width = usable width')
    (hheight : usable height = usable height') : ofFrame width height = ofFrame width' height' := by
  unfold ofFrame
  rw [hwidth, hheight]

/-- The tier of a frame is the higher of the tiers of its two dimensions. -/
theorem ordinal_ofFrame_eq_max :
    (ofFrame width height).ordinal =
      max (ofFrame width none).ordinal (ofFrame none height).ordinal := by
  have hmissing : usable none = none := rfl
  by_cases hwidth : usable width = none
  · rw [ordinal_ofFrame_of_absent ⟨hwidth, hmissing⟩,
      ofFrame_congr (hwidth.trans hmissing.symm) (Eq.refl (usable height))]
    exact (max_eq_right (unknown_ordinal_le _)).symm
  · by_cases hheight : usable height = none
    · rw [ordinal_ofFrame_of_absent ⟨hmissing, hheight⟩,
        ofFrame_congr (Eq.refl (usable width)) (hheight.trans hmissing.symm)]
      exact (max_eq_left (unknown_ordinal_le _)).symm
    · have hreaches : ∀ bound, reaches none bound = false := fun _ => rfl
      rw [ordinal_ofFrame_of_usable fun h => hwidth h.1,
        ordinal_ofFrame_of_usable fun h => hwidth h.1,
        ordinal_ofFrame_of_usable fun h => hheight h.2]
      simp only [hmissing, hreaches, Bool.or_false, Bool.false_or]
      exact firstReached_or falling_bounds

theorem ordinal_ofFrame_eq_zero_iff :
    (ofFrame width height).ordinal = 0 ↔ usable width = none ∧ usable height = none := by
  by_cases h : usable width = none ∧ usable height = none
  · exact iff_of_true (ordinal_ofFrame_of_absent h) h
  · rw [ordinal_ofFrame_of_usable h]
    exact iff_of_false (firstReached_pos falling_bounds).ne' h

/-- A frame has at least the tier of another if its dimensions are there where the other's are, and
reach what those reach. -/
theorem ordinal_ofFrame_mono {width' height' : Option Place}
    (hthere : usable width' = none ∧ usable height' = none →
      usable width = none ∧ usable height = none)
    (hwidth : ∀ bound, reaches (usable width) bound = true → reaches (usable width') bound = true)
    (hheight : ∀ bound, reaches (usable height) bound = true →
      reaches (usable height') bound = true) :
    (ofFrame width height).ordinal ≤ (ofFrame width' height').ordinal := by
  by_cases habsent : usable width = none ∧ usable height = none
  · rw [ordinal_ofFrame_of_absent habsent]
    exact unknown_ordinal_le _
  · rw [ordinal_ofFrame_of_usable habsent, ordinal_ofFrame_of_usable (mt hthere habsent)]
    refine firstReached_mono falling_bounds fun bound hreached => ?_
    rw [Bool.or_eq_true] at hreached ⊢
    exact hreached.imp (hwidth _) (hheight _)

end OfFrame

/-! ## Integer dimensions -/

/-- A dimension that is missing or not positive. -/
def Absent (dimension : Option Int) : Prop := ∀ n, dimension = some n → n ≤ 0

theorem usable_ofInt (n : Int) :
    usable (some (.ofInt n)) = if 0 < n then some (.ofInt n) else none := by
  rw [usable, Option.filter_some, Place.below_ofInt]
  simp only [decide_eq_true_iff]

theorem usable_eq_none_iff {dimension : Option Int} :
    usable (dimension.map .ofInt) = none ↔ Absent dimension := by
  cases dimension with
  | none => exact iff_of_true rfl nofun
  | some n =>
      rw [Option.map_some, usable_ofInt, ite_eq_right_iff]
      simp only [Absent, reduceCtorEq, Option.some.injEq, forall_eq', imp_false, not_lt]

/-- A frame with untyped dimensions is one with the integers that they are. -/
theorem ofValues_ofOption (width height : Option Int) :
    ofValues (.ofOption .int width) (.ofOption .int height) = .ok (ofSize width height) := by
  have hdimension : ∀ d : Option Int, ∃ place, dimension (.ofOption .int d) = .ok place ∧
      usable place = usable (d.map .ofInt) := by
    rintro (_ | n)
    · exact ⟨none, rfl, rfl⟩
    · by_cases hzero : n = 0
      · subst hzero
        exact ⟨none, rfl, (usable_ofInt 0).symm⟩
      · have htruthy : (Value.int n).isTruthy = true := bne_iff_ne.2 hzero
        refine ⟨some (.ofInt n), ?_, rfl⟩
        show dimension (.int n) = _
        rw [dimension, htruthy]
        rfl
  obtain ⟨w, hw, hwidth⟩ := hdimension width
  obtain ⟨h, hh, hheight⟩ := hdimension height
  rw [ofValues, hw, hh]
  exact congrArg Except.ok (ofFrame_congr hwidth hheight)

/-- The first dimension is missing or not positive, or it is at most the second. -/
def Within (dimension other : Option Int) : Prop :=
  Absent dimension ∨ ∃ m n, dimension = some m ∧ other = some n ∧ m ≤ n

theorem within_self (dimension : Option Int) : Within dimension dimension := by
  cases dimension with
  | none => exact .inl nofun
  | some n => exact .inr ⟨n, n, rfl, rfl, le_rfl⟩

/-- A larger dimension is present where a smaller one is, and reaches what that does. -/
theorem Within.usable {dimension other : Option Int} (h : Within dimension other) :
    (Absent other → Absent dimension) ∧
      ∀ bound, reaches (usable (dimension.map .ofInt)) bound = true →
        reaches (usable (other.map .ofInt)) bound = true := by
  by_cases habsent : Absent dimension
  · refine ⟨fun _ => habsent, fun bound hreaches => ?_⟩
    rw [usable_eq_none_iff.2 habsent] at hreaches
    exact absurd hreaches Bool.false_ne_true
  · obtain ⟨m, n, rfl, rfl, hle⟩ := h.resolve_left habsent
    have hm : 0 < m := by
      by_contra hnot
      exact habsent fun k hk => Option.some.inj hk ▸ not_lt.1 hnot
    refine ⟨fun hother => absurd (hother n rfl) (by omega), fun bound hreaches => ?_⟩
    rw [Option.map_some, usable_ofInt, if_pos (by omega), reaches, Option.any_some,
      Place.below_ofInt, Bool.not_eq_true', decide_eq_false_iff_not, not_lt] at hreaches ⊢
    exact hreaches.trans hle

/-! ## The ordinal of a frame -/

/-- The ordinal of the tier of a frame. -/
def number (width height : Option Int) : Nat := ordinalOfName (ofSize width height).name

theorem number_eq (width height : Option Int) :
    number width height = (ofSize width height).ordinal := ordinalOfName_name _

/-- The larger of the ordinals that the width and the height have each alone. -/
def highest (width height : Option Int) : Nat := max (number width none) (number none height)

theorem number_eq_highest (width height : Option Int) :
    number width height = highest width height := by
  simp only [highest, number_eq]
  exact ordinal_ofFrame_eq_max

theorem number_eq_zero_iff {width height : Option Int} :
    number width height = 0 ↔ Absent width ∧ Absent height := by
  rw [number_eq, ← usable_eq_none_iff, ← usable_eq_none_iff]
  exact ordinal_ofFrame_eq_zero_iff

/-- A frame that is at least as large in each dimension has at least the tier. -/
theorem number_mono {width width' height height' : Option Int} (hwidth : Within width width')
    (hheight : Within height height') : number width height ≤ number width' height' := by
  rw [number_eq, number_eq]
  refine ordinal_ofFrame_mono (fun habsent => ?_) hwidth.usable.2 hheight.usable.2
  rw [usable_eq_none_iff, usable_eq_none_iff] at habsent ⊢
  exact ⟨hwidth.usable.1 habsent.1, hheight.usable.1 habsent.2⟩

end Tier

/-! ## Downgrades -/

/-- The session is transcoded to a tier below that of its source. -/
def Session.IsDowngrade (session : Session) : Prop :=
  session.isTranscode = true ∧ session.outputTier.ordinal < session.sourceTier.ordinal

instance (session : Session) : Decidable session.IsDowngrade :=
  inferInstanceAs (Decidable (_ ∧ _))

theorem Observation.isTranscodeDowngrade_eq (context : Context) (condition : Condition) :
    (isTranscodeDowngrade context condition).actual =
        .bool (decide context.session.IsDowngrade) ∧
      (isTranscodeDowngrade context condition).matched =
        condition.holds (.bool (decide context.session.IsDowngrade)) := by
  by_cases htranscode : context.session.isTranscode = true
  · simp [isTranscodeDowngrade, Session.IsDowngrade, htranscode, Condition.find]
  · simp [isTranscodeDowngrade, Session.IsDowngrade, htranscode, Condition.find]

theorem Session.isDowngrade_iff {session : Session} :
    session.IsDowngrade ↔ session.isTranscode = true ∧
      Tier.number (session.streamVideo.bind (·.width)) (session.streamVideo.bind (·.height)) <
        Tier.number session.sourceWidth session.sourceHeight := by
  rw [Tier.number_eq, Tier.number_eq]
  exact Iff.rfl

theorem Field.matches_downgrade_iff (window : Except Failure Binary64) {context : Context}
    (condition : Condition) :
    Field.isTranscodeDowngrade.Matches window context
      (condition.test .eq (.scalar (.bool true))) ↔ context.session.IsDowngrade := by
  let asked := condition.test .eq (.scalar (.bool true))
  have hmatched := (Observation.isTranscodeDowngrade_eq context asked).2
  have hholds : ∀ b, asked.holds (.bool b) = (b == true) := fun _ => rfl
  rw [hholds, beq_true] at hmatched
  have hobserve : Field.isTranscodeDowngrade.observe window context asked =
      .ok (Observation.isTranscodeDowngrade context asked) := rfl
  rw [Field.Matches, hobserve]
  simp only [Except.ok.injEq, exists_eq_left', hmatched, decide_eq_true_iff]

/-- The ordinal of a frame is the larger of those of its width and its height; it does not fall as
one of these grows, and is zero just if neither is positive.  So a transcoded session is found to be
a downgrade exactly if the maximum over its source exceeds the maximum over what is delivered. -/
theorem Tier.number_isMaximum :
    (∀ width height,
      ofValues (.ofOption .int width) (.ofOption .int height) = .ok (ofSize width height) ∧
        number width height = highest width height) ∧
    (∀ (width width' : Int) height, width ≤ width' →
      number (some width) height ≤ number (some width') height) ∧
    (∀ width (height height' : Int), height ≤ height' →
      number width (some height) ≤ number width (some height')) ∧
    (∀ width height, number width height = 0 ↔ Absent width ∧ Absent height) ∧
    ∀ window context condition, context.session.isTranscode = true →
      ∃ finding, Field.isTranscodeDowngrade.observe window context condition = .ok finding ∧
        finding.actual = .bool (decide (
          highest (context.session.streamVideo.bind (·.width))
              (context.session.streamVideo.bind (·.height)) <
            highest context.session.sourceWidth context.session.sourceHeight)) := by
  refine ⟨fun width height => ⟨ofValues_ofOption width height, number_eq_highest width height⟩,
    fun width width' height hle => ?_, fun width height height' hle => ?_,
    fun _ _ => number_eq_zero_iff, fun window context condition htranscode => ?_⟩
  · exact number_mono (.inr ⟨width, width', rfl, rfl, hle⟩) (within_self height)
  · exact number_mono (within_self width) (.inr ⟨height, height', rfl, rfl, hle⟩)
  · refine ⟨_, rfl, ?_⟩
    have hiff := Session.isDowngrade_iff.trans (and_iff_right htranscode)
    rw [number_eq_highest, number_eq_highest] at hiff
    rw [(Observation.isTranscodeDowngrade_eq context condition).1]
    exact congrArg Value.bool (decide_eq_decide.2 hiff)

/-- A letterboxed frame, and a session delivered one tier below its source. -/
theorem Tier.number_isMaximum_letterboxed :
    let lowered : Context := { Context.lone with session := { Context.lone.session with
      isTranscode := true
      sourceWidth := some 1920
      sourceHeight := some 800
      streamVideo := some { width := some 1280, height := some 536 } } }
    let condition : Condition := { field := .known .isTranscodeDowngrade, operator := .eq }
    number (some 1920) (some 800) = 1080 ∧ number none (some 800) = 720 ∧
      (1919 : Int) ≤ 1920 ∧ number (some 1919) (some 800) ≤ number (some 1920) (some 800) ∧
      lowered.session.isTranscode = true ∧
      ∃ finding, Field.isTranscodeDowngrade.observe (.error .noRule) lowered condition =
        .ok finding ∧ finding.actual = .bool true := by
  intro lowered condition
  obtain ⟨hmax, hwidth, -, -, hdowngrade⟩ := Tier.number_isMaximum
  obtain ⟨finding, hfinding, hactual⟩ := hdowngrade (.error .noRule) lowered condition rfl
  have hletterboxed : number (some 1920) (some 800) = 1080 := by
    rw [(hmax _ _).2]
    decide +kernel
  refine ⟨hletterboxed, by decide +kernel, by decide, hwidth _ _ _ (by decide), rfl, finding,
    hfinding, hactual.trans (congrArg Value.bool ?_)⟩
  decide +kernel

/-- Where nothing is known of what is delivered, a session is a downgrade exactly if it is
transcoded and a dimension of its source is known. -/
theorem Field.observe_downgrade_of_absent {context : Context}
    (hwidth : Tier.Absent (context.session.streamVideo.bind (·.width)))
    (hheight : Tier.Absent (context.session.streamVideo.bind (·.height)))
    (window : Except Failure Binary64) (condition : Condition) :
    Field.isTranscodeDowngrade.Matches window context
        (condition.test .eq (.scalar (.bool true))) ↔
      context.session.isTranscode = true ∧
        ¬(Tier.Absent context.session.sourceWidth ∧
          Tier.Absent context.session.sourceHeight) := by
  rw [Field.matches_downgrade_iff, Session.isDowngrade_iff,
    Tier.number_eq_zero_iff.2 ⟨hwidth, hheight⟩, Nat.pos_iff_ne_zero, ne_eq,
    Tier.number_eq_zero_iff]

/-- A stream with a width of zero and no height, and then without a source. -/
theorem Field.observe_downgrade_of_absent_zero :
    let delivered (source : Option Int) : Context := { Context.lone with
      session := { Context.lone.session with
        isTranscode := true
        sourceHeight := source
        streamVideo := some { width := some 0 } } }
    let condition : Condition := { field := .known .isTranscodeDowngrade, operator := .eq }
    let matched (source : Option Int) := Field.isTranscodeDowngrade.Matches (.error .noRule)
      (delivered source) (condition.test .eq (.scalar (.bool true)))
    Tier.Absent ((delivered (some 2160)).session.streamVideo.bind (·.width)) ∧
      Tier.Absent ((delivered (some 2160)).session.streamVideo.bind (·.height)) ∧
      matched (some 2160) ∧ ¬matched none := by
  intro delivered condition matched
  have hwidth : ∀ source, Tier.Absent ((delivered source).session.streamVideo.bind (·.width)) := by
    rintro source n ⟨rfl⟩
    exact le_rfl
  have hheight : ∀ source,
      Tier.Absent ((delivered source).session.streamVideo.bind (·.height)) := nofun
  have hiff := fun source => Field.observe_downgrade_of_absent (hwidth source) (hheight source)
    (.error .noRule) condition
  refine ⟨hwidth _, hheight _, (hiff _).2 ⟨rfl, fun habsent => ?_⟩, fun h => ?_⟩
  · exact absurd (habsent.2 2160 rfl) (by decide)
  · exact ((hiff none).1 h).2 ⟨nofun, nofun⟩

/-- A transcoded session without details of the stream, from a large source. -/
theorem Field.observe_downgrade_unknown :
    let context : Context := { Context.lone with session := { Context.lone.session with
      isTranscode := true
      sourceWidth := some 3840
      sourceHeight := some 2160 } }
    context.session.outputTier = .unknown ∧
      (Field.isTranscodeDowngrade.observe (.error .noRule) context
        { field := .known .isTranscodeDowngrade, operator := .eq,
          value := .scalar (.bool true) }).map (·.matched) = .ok true := by
  decide +kernel

end PlaybackRules
