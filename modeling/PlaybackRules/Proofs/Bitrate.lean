import PlaybackRules.Proofs.FurtherPeer
import PlaybackRules.Proofs.Rounding

/-!
# Bit rates against thresholds

A bit rate in bits per second is compared in millions of bits, after a division that rounds.  Up to
`2 ^ 53` bits the rounding moves it by less than one bit (`Observation.megabitSteps_near`), and not
at all if it is a whole number of millions; so the comparison with an integer comes out as that of
the exact numbers does.  Rounding respects order for bit rates of any size, so a higher one meets
what a lower one meets, until the quotient is too large for a binary number
(`Observation.isFinite_megabits_iff`).
-/

namespace PlaybackRules

/-! ## The bit rate of a session -/

/-- The bit rate of the source's video track, if it is known. -/
def Session.trackBitrate (session : Session) : Option Int :=
  session.sourceVideo.bind (·.bitrate)

/-- A session has a bit rate: that of the source's video track, or its own where that is missing, or
zero where both are. -/
inductive Session.HasBitrate (session : Session) : Int → Prop where
  | track {bitrate : Int} (h : session.trackBitrate = some bitrate) : HasBitrate session bitrate
  | own {bitrate : Int} (htrack : session.trackBitrate = none)
      (h : session.bitrate = some bitrate) : HasBitrate session bitrate
  | missing (htrack : session.trackBitrate = none) (h : session.bitrate = none) :
      HasBitrate session 0

/-- Every session has one bit rate, the one that is observed. -/
theorem Session.hasBitrate_iff {session : Session} {bitrate : Int} :
    session.HasBitrate bitrate ↔ Observation.effectiveBitrate session = bitrate := by
  have hobserved : Observation.effectiveBitrate session =
      (session.trackBitrate.orElse fun _ => session.bitrate).getD 0 := rfl
  rw [hobserved]
  constructor
  · rintro (h | ⟨htrack, h⟩ | ⟨htrack, h⟩)
    · rw [h]
      rfl
    · rw [htrack, h]
      rfl
    · rw [htrack, h]
      rfl
  · rintro rfl
    cases htrack : session.trackBitrate with
    | some bitrate => exact .track htrack
    | none =>
        cases hown : session.bitrate with
        | some bitrate => exact .own htrack hown
        | none => exact .missing htrack hown

/-! ## Quotients in range -/

theorem Binary64.isFinite_ofSteps {negative : Bool} {steps : Nat} :
    (ofSteps negative steps).isFinite = true ↔ steps < limit := by
  unfold ofSteps
  by_cases h : steps < limit
  · rw [if_pos h]
    exact iff_of_true rfl h
  · rw [if_neg h]
    exact iff_of_false nofun h

namespace Observation

open Binary64

/-- The steps that a number of bits makes in millions, rounded. -/
def megabitSteps (bits : Nat) : Nat := roundSteps (bits * one) 1000000

/-- Bit rates of this size and above have no finite quotient. -/
def bitrateLimit : Nat := 1000000 * ((2 ^ 54 - 1) * 2 ^ 970)

theorem megabits_eq (bitrate : Int) :
    megabits bitrate = ofSteps (bitrate < 0) (megabitSteps bitrate.natAbs) := rfl

theorem megabitSteps_lt_limit_iff {bits : Nat} :
    megabitSteps bits < limit ↔ bits < bitrateLimit := by
  have hpow : (2 ^ 54 - 1) * 2 ^ 2044 * 1000000 = bitrateLimit * one := by
    have hexp : 2 ^ 2044 = 2 ^ 970 * 2 ^ 1074 := by rw [← pow_add]
    rw [bitrateLimit, one_eq, hexp]
    generalize 2 ^ 970 = a, 2 ^ 1074 = b
    ring
  rw [megabitSteps, limit_eq, roundSteps_lt_pow_iff (by decide) 2044, hpow,
    Nat.mul_lt_mul_right Binary64.one_pos]

theorem isFinite_megabits_iff {bitrate : Int} :
    (megabits bitrate).isFinite = true ↔ bitrate.natAbs < bitrateLimit := by
  rw [megabits_eq, isFinite_ofSteps, megabitSteps_lt_limit_iff]

theorem lt_bitrateLimit : 2 ^ 53 < bitrateLimit := by decide +kernel

/-- The place of a bit rate in millions of bits, rounded. -/
def megabitPlace (bitrate : Int) : Int :=
  if bitrate < 0 then -(megabitSteps bitrate.natAbs : Int) else megabitSteps bitrate.natAbs

theorem real?_megabits {bitrate : Int} (h : bitrate.natAbs < bitrateLimit) :
    (Value.float (megabits bitrate)).real? = some (.steps (megabitPlace bitrate)) := by
  have hsteps := megabitSteps_lt_limit_iff.2 h
  rw [megabits_eq, megabitPlace]
  generalize megabitSteps bitrate.natAbs = steps at hsteps ⊢
  rw [ofSteps, if_pos hsteps]
  by_cases hneg : bitrate < 0 <;> simp [Value.real?, place?, hneg]

/-! ## Rounding up to `2 ^ 53` bits -/

section Near

variable {bits : Nat} (h : bits ≤ 2 ^ 53)
include h

/-- A whole number of millions is not moved. -/
theorem megabitSteps_million {millions : Nat} (hbits : bits = 1000000 * millions) :
    megabitSteps bits = millions * one := by
  have hnum : bits * one = millions * one * 1000000 := by
    rw [hbits]
    ring
  have hsmall : millions < 2 ^ 53 := by omega
  have hspare : spareBits (millions * one) ≤ 1074 := by
    apply spareBits_le
    rw [one_eq, pow_add]
    exact Nat.mul_lt_mul_of_pos_right hsmall (pow_pos two_pos 1074)
  have hdvd : 2 ^ spareBits (millions * one) ∣ millions * one := by
    rw [one_eq] at hspare ⊢
    exact (pow_dvd_pow 2 hspare).trans (Nat.dvd_mul_left _ _)
  rw [megabitSteps, hnum, roundSteps_mul (by decide) hdvd]

/-- Any number is moved by less than one bit. -/
theorem megabitSteps_near :
    megabitSteps bits * 1000000 < (bits + 1) * one ∧
      bits * one < megabitSteps bits * 1000000 + one := by
  obtain ⟨hupper, hlower⟩ := roundSteps_near (bits * one) (show 0 < 1000000 by decide)
  -- the last significant bit stands for less than two millionths
  have hone : one = 2 ^ 19 * 2 ^ 1055 := by rw [one_eq, ← pow_add]
  have hspare : spareBits (bits * one / 1000000) ≤ 1055 := by
    apply spareBits_le
    rw [Nat.div_lt_iff_lt_mul (by decide), hone, pow_add]
    have hpos : 0 < 2 ^ 1055 := pow_pos two_pos 1055
    generalize 2 ^ 1055 = unit at hpos ⊢
    have hle : bits * (2 ^ 19 * unit) ≤ 2 ^ 53 * (2 ^ 19 * unit) := Nat.mul_le_mul_right _ h
    omega
  have hunit : 1000000 * 2 ^ spareBits (bits * one / 1000000) < 2 * one := by
    have hle : 2 ^ spareBits (bits * one / 1000000) ≤ 2 ^ 1055 :=
      pow_le_pow_right₀ one_le_two hspare
    have hpos : 0 < 2 ^ 1055 := pow_pos two_pos 1055
    rw [hone] at hle ⊢
    generalize 2 ^ 1055 = unit at hpos hle ⊢
    omega
  unfold megabitSteps
  generalize roundSteps (bits * one) 1000000 = steps,
    2 ^ spareBits (bits * one / 1000000) = unit at *
  have hone : (bits + 1) * one = bits * one + one := Nat.succ_mul ..
  generalize bits * one = product, one = unit' at *
  omega

end Near

/-- The rounded quotient is to a whole number of millions as the bit rate is to that many bits. -/
theorem cmp_megabitPlace {bitrate : Int} (h : bitrate.natAbs ≤ 2 ^ 53) (millions : Int) :
    cmp (megabitPlace bitrate) (millions * one) = cmp bitrate (1000000 * millions) := by
  have hone : (0 : Int) < one := Int.natCast_pos.2 Binary64.one_pos
  have hnear : megabitPlace bitrate * 1000000 < (bitrate + 1) * one ∧
      (bitrate - 1) * one < megabitPlace bitrate * 1000000 := by
    obtain ⟨hupper, hlower⟩ := megabitSteps_near h
    zify at hupper hlower
    unfold megabitPlace
    split
    case isTrue hneg =>
        rw [abs_of_neg hneg] at hupper hlower
        constructor <;> linarith
    case isFalse hpos =>
        rw [abs_of_nonneg (not_lt.1 hpos)] at hupper hlower
        constructor <;> linarith
  rcases lt_trichotomy bitrate (1000000 * millions) with hlt | heq | hgt
  · have hle : (bitrate + 1) * one ≤ 1000000 * millions * one :=
      Int.mul_le_mul_of_nonneg_right hlt hone.le
    have hplace : megabitPlace bitrate < millions * one := by linarith
    rw [(cmp_eq_lt_iff _ _).2 hlt, (cmp_eq_lt_iff _ _).2 hplace]
  · have habs : bitrate.natAbs = 1000000 * millions.natAbs := by rw [heq, Int.natAbs_mul]; rfl
    have hplace : megabitPlace bitrate = millions * one := by
      rw [megabitPlace, megabitSteps_million h habs, Nat.cast_mul]
      split
      case isTrue hneg =>
          rw [Int.natCast_natAbs, abs_of_neg (by omega), Int.neg_mul, Int.neg_neg]
      case isFalse hpos =>
          rw [Int.natCast_natAbs, abs_of_nonneg (by omega)]
    rw [(cmp_eq_eq_iff _ _).2 heq, (cmp_eq_eq_iff _ _).2 hplace]
  · have hle : 1000000 * millions * one ≤ (bitrate - 1) * one :=
      Int.mul_le_mul_of_nonneg_right (Int.le_sub_one_of_lt hgt) hone.le
    have hplace : millions * one < megabitPlace bitrate := by linarith
    rw [(cmp_eq_gt_iff _ _).2 hgt, (cmp_eq_gt_iff _ _).2 hplace]

/-! ## Order for bit rates of any size -/

theorem megabitSteps_mono {bits bits' : Nat} (h : bits ≤ bits') :
    megabitSteps bits ≤ megabitSteps bits' :=
  roundSteps_mono (by decide) (by decide)
    (Nat.mul_le_mul_right _ (Nat.mul_le_mul_right _ h))

theorem megabitPlace_mono {bitrate bitrate' : Int} (h : bitrate ≤ bitrate') :
    megabitPlace bitrate ≤ megabitPlace bitrate' := by
  unfold megabitPlace
  by_cases hneg : bitrate < 0
  · by_cases hneg' : bitrate' < 0
    · rw [if_pos hneg, if_pos hneg']
      exact Int.neg_le_neg (Int.ofNat_le.2 (megabitSteps_mono (by omega)))
    · rw [if_pos hneg, if_neg hneg']
      omega
  · rw [if_neg hneg, if_neg (by omega)]
    exact Int.ofNat_le.2 (megabitSteps_mono (by omega))

end Observation

/-! ## Operators on integers -/

/-- What an operator says of two integers; membership says nothing. -/
def Operator.Relates : Operator → Int → Int → Prop
  | eq, m, n => m = n
  | neq, m, n => m ≠ n
  | gt, m, n => n < m
  | gte, m, n => n ≤ m
  | lt, m, n => m < n
  | lte, m, n => m ≤ n
  | isIn, _, _ => False
  | notIn, _, _ => False

theorem Operator.relates_congr {m n m' n' : Int} (h : cmp m n = cmp m' n') (op : Operator) :
    op.Relates m n ↔ op.Relates m' n' := by
  cases op with
  | eq => exact eq_iff_eq_of_cmp_eq_cmp h
  | neq => exact not_congr (eq_iff_eq_of_cmp_eq_cmp h)
  | gt => exact lt_iff_lt_of_cmp_eq_cmp (cmp_eq_cmp_symm.1 h)
  | gte => exact le_iff_le_of_cmp_eq_cmp (cmp_eq_cmp_symm.1 h)
  | lt => exact lt_iff_lt_of_cmp_eq_cmp h
  | lte => exact le_iff_le_of_cmp_eq_cmp h
  | isIn => exact Iff.rfl
  | notIn => exact Iff.rfl

theorem Place.value_steps_le_iff {m n : Int} : (steps m).value ≤ (steps n).value ↔ m ≤ n := by
  rw [← not_below_iff, below, Bool.not_eq_true', decide_eq_false_iff_not, not_lt]

theorem Value.number?_of_real? {a : Value} {p : Place} (h : a.real? = some p) :
    a.number? = some p.value := by
  rw [number?_eq, h]
  rfl

/-- A number is compared with an integer as their places are. -/
theorem Value.compare_int_iff {a : Value} {place threshold : Int}
    (ha : a.real? = some (.steps place)) (op : Operator) :
    a.compare op (int threshold) = true ↔ op.Relates place (threshold * Binary64.one) := by
  have hb : (int threshold).real? = some (.steps (threshold * Binary64.one)) := rfl
  -- No step below may compute the number of steps in one.
  generalize threshold * (Binary64.one : Int) = place' at hb ⊢
  have hequal : a.compare .eq (int threshold) = true ↔ place = place' := by
    rw [compare_eq_iff_of_number? (number?_of_real? ha) (number?_of_real? hb), Place.value_inj,
      Place.steps.injEq]
  cases op with
  | eq => exact hequal
  | neq =>
      show (!a.compare .eq (int threshold)) = true ↔ ¬place = place'
      rw [Bool.not_eq_true', ← Bool.not_eq_true, hequal]
  | isIn => exact iff_of_false nofun id
  | notIn => exact iff_of_false nofun id
  | _ => simp [compare, ordered, ha, hb, Place.below, Operator.Relates]

/-! ## The observation -/

section Observe

variable {window : Except Failure Binary64} {context context' : Context} {condition : Condition}
  {bitrate bitrate' : Int}

theorem Field.matches_bitrate_iff (h : context.session.HasBitrate bitrate) :
    sourceBitrate.Matches window context condition ↔
      bitrate.natAbs < Observation.bitrateLimit ∧
        condition.holds (.float (Observation.megabits bitrate)) = true := by
  show (∃ finding, Observation.sourceBitrate context condition = .ok finding ∧ _) ↔ _
  unfold Observation.sourceBitrate
  rw [Session.hasBitrate_iff.1 h, ← Observation.isFinite_megabits_iff]
  by_cases hfinite : (Observation.megabits bitrate).isFinite = true
  · simp [hfinite, Condition.find]
  · simp [hfinite]

theorem Field.observe_bitrate_eq_error_iff (h : context.session.HasBitrate bitrate) :
    sourceBitrate.observe window context condition = .error .bitrateRange ↔
      Observation.bitrateLimit ≤ bitrate.natAbs := by
  show Observation.sourceBitrate context condition = _ ↔ _
  unfold Observation.sourceBitrate
  rw [Session.hasBitrate_iff.1 h, ← not_lt, ← Observation.isFinite_megabits_iff]
  by_cases hfinite : (Observation.megabits bitrate).isFinite = true
  · simp [hfinite]
  · simp [hfinite]

end Observe

/-- Bit rates of up to `2 ^ 53` bits are compared with an integer exactly.  A higher bit rate, of
any size that has a finite quotient, meets whatever threshold a lower one meets by an operator that
asks for more; without a finite quotient the observation fails. -/
theorem Field.observe_bitrate (window : Except Failure Binary64) :
    (∀ (context : Context) (condition : Condition) (bitrate : Int),
      context.session.HasBitrate bitrate → bitrate.natAbs ≤ 2 ^ 53 →
        ∀ (op : Operator) (threshold : Int),
          sourceBitrate.Matches window context (condition.test op (.scalar (.int threshold))) ↔
            op.Relates bitrate (1000000 * threshold)) ∧
    (∀ (context context' : Context) (condition : Condition) (bitrate bitrate' : Int),
      context.session.HasBitrate bitrate → context'.session.HasBitrate bitrate' →
        bitrate ≤ bitrate' → bitrate'.natAbs < Observation.bitrateLimit →
        condition.operator.AsksForMore → sourceBitrate.Matches window context condition →
          sourceBitrate.Matches window context' condition) ∧
    ∀ (context : Context) (condition : Condition) (bitrate : Int),
      context.session.HasBitrate bitrate →
        (sourceBitrate.observe window context condition = .error .bitrateRange ↔
          Observation.bitrateLimit ≤ bitrate.natAbs) := by
  refine ⟨fun context condition bitrate hbitrate hsmall op threshold => ?_,
    fun context context' condition bitrate bitrate' hbitrate hbitrate' hle hlimit hop hmatches =>
      ?_,
    fun context condition bitrate hbitrate => observe_bitrate_eq_error_iff hbitrate⟩
  · have hlimit : bitrate.natAbs < Observation.bitrateLimit :=
      hsmall.trans_lt Observation.lt_bitrateLimit
    have hcompare : (Value.float (Observation.megabits bitrate)).compare op (.int threshold) =
        true ↔ _ := Value.compare_int_iff (Observation.real?_megabits hlimit) op
    rw [matches_bitrate_iff hbitrate, and_iff_right hlimit]
    refine hcompare.trans (op.relates_congr ?_)
    exact Observation.cmp_megabitPlace hsmall threshold
  · obtain ⟨hlimit₀, hholds⟩ := (matches_bitrate_iff hbitrate).1 hmatches
    refine (matches_bitrate_iff hbitrate').2 ⟨hlimit, ?_⟩
    have hplace := Place.value_steps_le_iff.2 (Observation.megabitPlace_mono hle)
    exact Condition.holds_of_le hop (Value.number?_of_real? (Observation.real?_megabits hlimit₀))
      (Value.number?_of_real? (Observation.real?_megabits hlimit)) hplace hholds

/-- The largest bit rate that is compared exactly, next to the whole millions around it, and one of
three hundred digits. -/
theorem Field.observe_bitrate_largest :
    let playing (bitrate : Int) : Context := { Context.lone with
      session := { Context.lone.session with
        bitrate := some 1, sourceVideo := some { bitrate := some bitrate } } }
    let condition : Condition :=
      { field := .known .sourceBitrate, operator := .gt, value := .scalar (.int 9007199254) }
    let window : Except Failure Binary64 := .error .noRule
    let largest : Int := 2 ^ 53
    ((playing largest).session.HasBitrate largest ∧ largest.natAbs ≤ 2 ^ 53 ∧
      Field.sourceBitrate.Matches window (playing largest)
        (condition.test .gt (.scalar (.int 9007199254))) ∧
      Field.sourceBitrate.Matches window (playing largest)
        (condition.test .lt (.scalar (.int 9007199255)))) ∧
    ((playing (10 ^ 300)).session.HasBitrate (10 ^ 300) ∧ largest ≤ 10 ^ 300 ∧
      (10 ^ 300 : Int).natAbs < Observation.bitrateLimit ∧ condition.operator.AsksForMore ∧
      Field.sourceBitrate.Matches window (playing largest) condition ∧
      Field.sourceBitrate.Matches window (playing (10 ^ 300)) condition) := by
  intro playing condition window largest
  obtain ⟨hexact, hmono, -⟩ := Field.observe_bitrate window
  have hbitrate : ∀ bitrate, (playing bitrate).session.HasBitrate bitrate := fun _ => .track rfl
  have hsmall : largest.natAbs ≤ 2 ^ 53 := by decide
  have hgt := (hexact _ condition _ (hbitrate largest) hsmall .gt 9007199254).2
    (show 1000000 * 9007199254 < largest by decide)
  have hlt := (hexact _ condition _ (hbitrate largest) hsmall .lt 9007199255).2
    (show largest < 1000000 * 9007199255 by decide)
  have hle : largest ≤ 10 ^ 300 := by decide +kernel
  have hlimit : (10 ^ 300 : Int).natAbs < Observation.bitrateLimit := by decide +kernel
  have hop : condition.operator.AsksForMore := .inl rfl
  exact ⟨⟨hbitrate _, hsmall, hgt, hlt⟩, hbitrate _, hle, hlimit, hop, hgt,
    hmono _ _ condition _ _ (hbitrate _) (hbitrate _) hle hlimit hop hgt⟩

end PlaybackRules
