import PlaybackRules.Proofs.Entries
import PlaybackRules.Proofs.Equality
import PlaybackRules.Proofs.Rounding
import PlaybackRules.Proofs.Trigonometry

/-!
# The evidence of distances

The largest distance to another session and the distances under the names of the sessions are kept
side by side, and each is rounded on its own.  As rounding respects the order of numbers
(`Binary64.roundedSize_mono`), the largest distance is still a bound after it, and it is one of the
distances if none lies below zero (`Observation.exists_mem_largest`).  The names are another matter:
where sessions share one, only the last of their distances is kept, so the evidence accounts for the
distance that is reported only as far as the names tell the distances apart
(`Trigonometry.activeSessionDistance_accounts`).
-/

namespace PlaybackRules

/-! ## Rounded distances -/

namespace Binary64

/-- A count of steps, rounded to hundredths. -/
def hundredths (steps : Nat) : Nat := roundSteps (roundQuotient (steps * 100) one * one) 100

theorem roundHundredths_finite (negative : Bool) (steps : Nat) :
    (finite negative steps).roundHundredths = ofSteps negative (hundredths steps) := rfl

theorem hundredths_zero : hundredths 0 = 0 := by
  decide +kernel

theorem hundredths_mono : Monotone hundredths := by
  intro m n h
  refine roundSteps_mono (by decide) (by decide) ?_
  refine Nat.mul_le_mul_right 100 (Nat.mul_le_mul_right one ?_)
  refine roundQuotient_mono one_pos one_pos ?_
  exact Nat.mul_le_mul_right one (Nat.mul_le_mul_right 100 h)

/-- The size of a number rounded to hundredths, from its own. -/
def roundedSize : ℕ∞ → ℕ∞
  | none => ⊤
  | some steps => if hundredths steps < limit then (hundredths steps : ℕ∞) else ⊤

theorem roundHundredths_ofSize (size : ℕ∞) :
    (ofSize size).roundHundredths = ofSize (roundedSize size) := by
  induction size using ENat.recTopCoe with
  | top => rfl
  | coe steps => exact ofSteps_false (hundredths steps)

theorem roundedSize_coe (steps : Nat) :
    roundedSize steps = if hundredths steps < limit then (hundredths steps : ℕ∞) else ⊤ := rfl

theorem roundedSize_zero : roundedSize 0 = 0 := by
  have hlimit : 0 < limit := by decide +kernel
  have hzero := roundedSize_coe 0
  rw [hundredths_zero, if_pos hlimit] at hzero
  exact hzero

theorem roundedSize_mono : Monotone roundedSize := by
  intro size most h
  induction most using ENat.recTopCoe with
  | top => exact le_top
  | coe n =>
      obtain ⟨m, rfl⟩ := ENat.ne_top_iff_exists.1 (ne_top_of_le_ne_top (ENat.natCast_ne_top n) h)
      have hle : hundredths m ≤ hundredths n := hundredths_mono (ENat.natCast_le_natCast.1 h)
      rw [roundedSize_coe, roundedSize_coe]
      split_ifs with hm hn hn
      · exact ENat.natCast_le_natCast.2 hle
      · exact le_top
      · exact absurd (hle.trans_lt hn) hm
      · exact le_rfl

theorem size_roundHundredths (x : Binary64) : x.roundHundredths.size = roundedSize x.size := by
  cases x with
  | nan => rw [show nan.size = 0 from rfl, roundedSize_zero]; rfl
  | infinite negative =>
      cases negative with
      | true => rw [show (infinite true).size = 0 from rfl, roundedSize_zero]; rfl
      | false => rfl
  | finite negative steps =>
      rw [roundHundredths_finite]
      cases negative with
      | true => rw [show (finite true steps).size = 0 from rfl, roundedSize_zero, size_ofSteps_true]
      | false => rw [ofSteps_false, size_ofSize]; rfl

theorem eq_zero_of_size {x : Binary64} (hnan : x ≠ nan) (hbelow : x.below zero = false)
    (hsize : x.size = 0) : ∃ negative, x = finite negative 0 := by
  rcases x with _ | (_ | _) | ⟨_ | _, steps⟩
  · exact absurd rfl hnan
  · exact absurd hsize (ENat.top_ne_zero)
  · exact absurd hbelow (by decide)
  · exact ⟨false, congrArg (finite false) (Nat.cast_eq_zero.1 hsize)⟩
  · have hle : ¬-(steps : Int) < 0 := of_decide_eq_false hbelow
    exact ⟨true, congrArg (finite true) (by omega)⟩

theorem same_ofSize (size : ℕ∞) :
    (Value.float (ofSize size)).same (.float (ofSize size)) = true := by
  induction size using ENat.recTopCoe <;> rw [Value.same_of_place? rfl rfl, beq_self_eq_true]

end Binary64

/-! ## The largest distance -/

namespace Observation

/-- The rounded distance under the name of the session that it was measured to. -/
def rounded : String × Binary64 → String × Value
  | (id, distance) => (id, .float distance.roundHundredths)

variable {found : List (String × Binary64)}

/-- No distance is above the largest one after rounding. -/
theorem not_below_of_mem {pair : String × Binary64} (hmem : pair ∈ found) :
    (largest found).roundHundredths.below pair.2.roundHundredths = false := by
  obtain ⟨size, hsize, -, hbound, -⟩ := foldl_max_spec found 0
  have hlargest : largest found = .ofSize size := hsize
  rw [hlargest, Binary64.roundHundredths_ofSize, Binary64.below_ofSize,
    Binary64.size_roundHundredths]
  exact decide_eq_false (not_lt.2 (Binary64.roundedSize_mono (hbound pair hmem)))

/-- If no distance lies below zero, the largest one is, after rounding, one of the distances. -/
theorem exists_mem_largest (hbelow : ∀ pair ∈ found, pair.2.below .zero = false)
    (hnumber : ∃ pair ∈ found, pair.2 ≠ .nan) :
    ∃ pair ∈ found, (Value.float (largest found).roundHundredths).same
      (.float pair.2.roundHundredths) = true := by
  obtain ⟨size, hsize, -, hbound, hreached⟩ := foldl_max_spec found 0
  have hlargest : largest found = .ofSize size := hsize
  rw [hlargest]
  by_cases hzero : size = 0
  · -- no distance is above zero, so the one that is a number is zero, of either sign
    obtain ⟨pair, hmem, hnan⟩ := hnumber
    refine ⟨pair, hmem, ?_⟩
    have hle := hbound pair hmem
    rw [hzero, nonpos_iff_eq_zero] at hle
    obtain ⟨negative, hpair⟩ := Binary64.eq_zero_of_size hnan (hbelow pair hmem) hle
    rw [hzero, hpair]
    clear hpair
    revert negative
    decide +kernel
  · obtain ⟨pair, hmem, hpair⟩ := hreached.resolve_left hzero
    have heq : pair.2 = .ofSize size := by
      rw [← hpair, Binary64.ofSize_size]
      rw [hpair]
      exact pos_iff_ne_zero.2 hzero
    refine ⟨pair, hmem, ?_⟩
    rw [heq, Binary64.roundHundredths_ofSize]
    exact Binary64.same_ofSize _

end Observation

/-! ## The evidence -/

namespace Trigonometry

variable {t : Trigonometry} {session : Session} {peers : List Session}

/-- Does a session lie at a distance that is shown as a value? -/
def Shows (t : Trigonometry) (session peer : Session) (value : Value) : Prop :=
  ∃ distance, t.distance session peer = .ok (some distance) ∧
    value = .float distance.roundHundredths

/-- Do sessions that share a name lie at distances that are shown as one value? -/
def NamesTell (t : Trigonometry) (session : Session) (peers : List Session) : Prop :=
  ∀ a ∈ peers, ∀ b ∈ peers, a.id = b.id →
    ∀ value value', t.Shows session a value → t.Shows session b value' → value = value'

theorem measured_eq_some_iff {peer : Session} {pair : String × Binary64} :
    t.measured session peer = some pair ↔
      ∃ distance, t.distance session peer = .ok (some distance) ∧ pair = (peer.id, distance) := by
  unfold measured
  rcases t.distance session peer with failure | (_ | distance)
  · simp
  · simp
  · simp [eq_comm]

/-- The entries of the evidence: the rounded distances to the sessions that have one. -/
def shown (t : Trigonometry) (session : Session) (peers : List Session) :
    List (String × Value) :=
  (peers.filterMap (t.measured session)).map Observation.rounded

theorem mem_shown_iff {id : String} {value : Value} :
    (id, value) ∈ t.shown session peers ↔
      ∃ peer ∈ peers, peer.id = id ∧ t.Shows session peer value := by
  unfold shown Shows
  simp only [List.mem_map, List.mem_filterMap, measured_eq_some_iff]
  constructor
  · rintro ⟨_, ⟨peer, hmem, distance, hdistance, rfl⟩, hpair⟩
    obtain ⟨hid, hvalue⟩ := Prod.mk.inj hpair
    exact ⟨peer, hmem, hid, distance, hdistance, hvalue.symm⟩
  · rintro ⟨peer, hmem, rfl, distance, hdistance, rfl⟩
    exact ⟨_, ⟨peer, hmem, distance, hdistance, rfl⟩, rfl⟩

theorem namesTell_of_nodup (h : (peers.map Session.id).Nodup) : t.NamesTell session peers := by
  rintro a ha b hb hid _ _ ⟨distance, ha', rfl⟩ ⟨distance', hb', rfl⟩
  obtain rfl := List.inj_on_of_nodup_map h ha hb hid
  rw [ha'] at hb'
  obtain rfl := Option.some.inj (Except.ok.inj hb')
  rfl

/-- Every distance is found under its session's name exactly if no two sessions of one name lie at
distances that differ. -/
theorem shown_iff {entries : Entries} (h : entries.Collects (t.shown session peers)) :
    (∀ peer ∈ peers, ∀ value, t.Shows session peer value → entries.get? peer.id = some value) ↔
      t.NamesTell session peers := by
  have hpairs : (∀ peer ∈ peers, ∀ value, t.Shows session peer value →
      entries.get? peer.id = some value) ↔
      ∀ pair ∈ t.shown session peers, entries.get? pair.1 = some pair.2 := by
    constructor
    · rintro hall ⟨id, value⟩ hpair
      obtain ⟨peer, hmem, rfl, hshows⟩ := mem_shown_iff.1 hpair
      exact hall peer hmem value hshows
    · intro hall peer hmem value hshows
      exact hall (peer.id, value) (mem_shown_iff.2 ⟨peer, hmem, rfl, hshows⟩)
  rw [hpairs, h.holds_iff]
  constructor
  · intro hsame a ha b hb hid value value' hvalue hvalue'
    exact hsame (a.id, value) (mem_shown_iff.2 ⟨a, ha, rfl, hvalue⟩) (b.id, value')
      (mem_shown_iff.2 ⟨b, hb, rfl, hvalue'⟩) hid
  · rintro htell ⟨id, value⟩ hpair ⟨id', value'⟩ hpair' hid
    obtain ⟨a, ha, rfl, hvalue⟩ := mem_shown_iff.1 hpair
    obtain ⟨b, hb, rfl, hvalue'⟩ := mem_shown_iff.1 hpair'
    exact htell a ha b hb hid value value' hvalue hvalue'

/-- With some peers whose distances can all be computed there is a finding, with the largest of
these and the entries of the evidence. -/
theorem activeSessionDistance_eq {context : Context} {condition : Condition}
    (hpeers : context.peers context.active condition ≠ [])
    (hok : ∀ peer ∈ context.peers context.active condition,
      (t.distance context.session peer).isOk = true) :
    let peers := context.peers context.active condition
    let largest := Observation.largest (peers.filterMap (t.measured context.session))
    ∃ finding, t.activeSessionDistance context condition = .ok finding ∧
      finding.actual = .float largest.roundHundredths ∧
      finding.details =
        some [("distances", .object (Entries.setAll [] (t.shown context.session peers)))] := by
  intro peers largest
  unfold activeSessionDistance
  rw [if_neg (mt List.isEmpty_iff.1 hpeers), distances_ok hok]
  refine ⟨_, rfl, rfl, ?_⟩
  rw [shown, Entries.setAll, List.foldl_map]
  rfl

/-- A session on the equator. -/
def equatorSession (id : String) (longitude : Nat) : Session :=
  { Context.lone.session with
    id, latitude := some .zero, longitude := some (.ofRatio false longitude 1) }

/-- A session with two others, one at the opposite place and one at the same. -/
def equator (far near : String) : Context :=
  { Context.lone with
    session := equatorSession "session" 0
    active := [.other (equatorSession far 180), .other (equatorSession near 0)] }

/-- The evidence of the distances accounts for the one that is reported.  It names the sessions that
lie at a distance, each name once, with the rounded distance to the last session of that name; and
no value in it is above the one reported.  If sessions that share a name lie at the same rounded
distance, and so in particular if no name is shared, then the evidence has the distances to all of
them, and the one reported is among its values; and else the evidence leaves some distance out. -/
theorem activeSessionDistance_accounts (law : t.Lawful) {context : Context} {condition : Condition}
    (hok : ∀ peer ∈ context.peers context.active condition,
      (t.distance context.session peer).isOk = true)
    (hnumber : ∃ peer ∈ context.peers context.active condition, ∃ distance,
      t.distance context.session peer = .ok (some distance) ∧ distance ≠ .nan) :
    machine.activeSessionDistance = Observation.activeSessionDistance ∧
    let peers := context.peers context.active condition
    let session := context.session
    ∃ (finding : Finding) (most : Binary64) (entries : Entries),
      t.activeSessionDistance context condition = .ok finding ∧
      finding.actual = .float most ∧
      finding.details = some [("distances", .object entries)] ∧
      entries.Collects (t.shown session peers) ∧
      (∀ id distance, entries.get? id = some (.float distance) → most.below distance = false) ∧
      ((∀ peer ∈ peers, ∀ value, t.Shows session peer value →
        entries.get? peer.id = some value) ↔ t.NamesTell session peers) ∧
      ((peers.map Session.id).Nodup → t.NamesTell session peers) ∧
      (t.NamesTell session peers →
        ∃ id value, entries.get? id = some value ∧ (Value.float most).same value = true) := by
  refine ⟨rfl, ?_⟩
  intro peers session
  obtain ⟨number, hmem, distance, hdistance, hnan⟩ := hnumber
  obtain ⟨finding, hfinding, hactual, hdetails⟩ :=
    activeSessionDistance_eq (List.ne_nil_of_mem hmem) hok
  have hcollects := Entries.collects_setAll (t.shown session peers)
  refine ⟨finding, _, _, hfinding, hactual, hdetails, hcollects, ?_, shown_iff hcollects,
    namesTell_of_nodup, ?_⟩
  · intro id distance hget
    obtain ⟨before, after, hpairs, -⟩ := hcollects.get?_eq_some_iff.1 hget
    have hshown : (id, Value.float distance) ∈ t.shown session peers := by
      rw [hpairs]
      exact List.mem_append_right _ (List.mem_cons_self ..)
    obtain ⟨pair, hpair, heq⟩ := List.mem_map.1 hshown
    obtain ⟨-, hvalue⟩ := Prod.mk.inj heq
    rw [← Value.float.inj hvalue]
    exact Observation.not_below_of_mem hpair
  · intro htell
    -- where every distance is found under its name, the largest is found too
    have hbelow : ∀ pair ∈ peers.filterMap (t.measured session), pair.2.below .zero = false := by
      intro pair hpair
      obtain ⟨peer, -, hpeer⟩ := List.mem_filterMap.1 hpair
      obtain ⟨distance, hdistance, rfl⟩ := measured_eq_some_iff.1 hpeer
      exact distance_not_below law hdistance
    have hfound : (number.id, distance) ∈ peers.filterMap (t.measured session) :=
      List.mem_filterMap.2 ⟨number, hmem, measured_eq_some_iff.2 ⟨distance, hdistance, rfl⟩⟩
    obtain ⟨pair, hpair, hsame⟩ := Observation.exists_mem_largest hbelow ⟨_, hfound, hnan⟩
    obtain ⟨peer, hpeer, hmeasured⟩ := List.mem_filterMap.1 hpair
    obtain ⟨distance, hdistance, rfl⟩ := measured_eq_some_iff.1 hmeasured
    exact ⟨peer.id, _, (shown_iff hcollects).2 htell peer hpeer _ ⟨distance, hdistance, rfl⟩, hsame⟩

theorem activeSessionDistance_accounts_equator :
    let context := equator "far" "near"
    let condition : Condition := { field := .known .activeSessionDistance, operator := .gt }
    let peers := context.peers context.active condition
    equatorial.Lawful ∧
      (∀ peer ∈ peers, (equatorial.distance context.session peer).isOk = true) ∧
      (∃ peer ∈ peers, ∃ distance,
        equatorial.distance context.session peer = .ok (some distance) ∧ distance ≠ .nan) ∧
      (peers.map Session.id).Nodup ∧
      ∃ (finding : Finding) (most : Binary64) (entries : Entries),
        equatorial.activeSessionDistance context condition = .ok finding ∧
        finding.actual = .float most ∧
        finding.details = some [("distances", .object entries)] ∧
        ∃ id value, entries.get? id = some value ∧ (Value.float most).same value = true := by
  intro context condition peers
  have hok : ∀ peer ∈ peers, (equatorial.distance context.session peer).isOk = true := by
    decide +kernel
  have hnumber : ∃ peer ∈ peers, ∃ distance,
      equatorial.distance context.session peer = .ok (some distance) ∧ distance ≠ .nan :=
    ⟨equatorSession "near" 0, by decide +kernel, .zero, by decide +kernel, by decide⟩
  have hnodup : (peers.map Session.id).Nodup := by decide +kernel
  obtain ⟨-, finding, most, entries, hfinding, hactual, hdetails, -, -, -, htell, hmost⟩ :=
    activeSessionDistance_accounts lawful_equatorial hok hnumber
  exact ⟨lawful_equatorial, hok, hnumber, hnodup, finding, most, entries, hfinding, hactual,
    hdetails, hmost (htell hnodup)⟩

/-- If the two others share a name, the evidence has the distance to the second only. -/
theorem activeSessionDistance_overwritten :
    let context := equator "twice" "twice"
    let condition : Condition := { field := .known .activeSessionDistance, operator := .gt }
    let peers := context.peers context.active condition
    (∀ peer ∈ peers, (equatorial.distance context.session peer).isOk = true) ∧
      (∃ peer ∈ peers, equatorial.distance context.session peer = .ok (some .zero)) ∧
      ∃ finding, equatorial.activeSessionDistance context condition = .ok finding ∧
        finding.actual = .float (.ofRatio false 2001509 100) ∧
        finding.details = some [("distances", .object [("twice", .float .zero)])] := by
  intro context condition peers
  have hok : ∀ peer ∈ peers, (equatorial.distance context.session peer).isOk = true := by
    decide +kernel
  have hnear : equatorSession "twice" 0 ∈ peers := by decide +kernel
  obtain ⟨finding, hfinding, hactual, hdetails⟩ :=
    activeSessionDistance_eq (List.ne_nil_of_mem hnear) hok
  refine ⟨hok, ⟨_, hnear, by decide +kernel⟩, finding, hfinding, ?_, ?_⟩
  · rw [hactual]
    exact congrArg Value.float (by decide +kernel)
  · obtain ⟨far, hmeasured⟩ : ∃ far, peers.filterMap (equatorial.measured context.session) =
        [("twice", far), ("twice", .zero)] :=
      ⟨earthRadius * (.finite false (2 * Binary64.one) * .ofFloat 1.5707963267948966),
        by decide +kernel⟩
    have hzero : Binary64.zero.roundHundredths = .zero := by decide +kernel
    rw [hdetails, shown, hmeasured]
    simp only [List.map_cons, List.map_nil, Observation.rounded, hzero]
    rfl

end Trigonometry

end PlaybackRules
