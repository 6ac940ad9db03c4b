import PlaybackRules.Proofs.Behaviour
import PlaybackRules.Proofs.TierNames

/-!
# A further peer

The largest distance to another session does not fall as a session is added, so a condition that
asks for more than some distance still holds, provided that the distance to the added session can be
computed (`Field.observe_furtherPeer`).  A session without coordinates has none and is passed over,
and so is a distance that is nan.  But a distance that fails makes the whole observation fail, and
there is none to a place at infinity (`Trigonometry.distance_of_isUnbounded`).
-/

namespace PlaybackRules

/-! ## Steps that fail in one way -/

/-- A computation fails as its later part does if its first step can only fail so too. -/
theorem bind_eq_error {α β : Type} {failure : Failure} {x : Except Failure α}
    {f : α → Except Failure β} (hx : ∀ e, x = .error e → e = failure)
    (hf : ∀ a, f a = .error failure) : x >>= f = .error failure := by
  cases x with
  | error e => exact congrArg Except.error (hx e rfl)
  | ok a => exact hf a

namespace Trigonometry

variable {t : Trigonometry} {angle : Float} {e : Failure}

theorem sine_eq_error (h : t.sine angle = .error e) : e = .unboundedAngle := by
  unfold sine at h
  split at h
  · exact (Except.error.inj h).symm
  · cases h

theorem cosine_eq_error (h : t.cosine angle = .error e) : e = .unboundedAngle := by
  unfold cosine at h
  split at h
  · exact (Except.error.inj h).symm
  · cases h

end Trigonometry

/-! ## Places at infinity -/

namespace Binary64

theorem isInf_radians_infinite (negative : Bool) :
    (radians (infinite negative).toFloat).isInf = true := by
  cases negative <;> decide +kernel

theorem isInf_half_radians_infinite (negative : Bool) :
    (radians (infinite negative).toFloat / 2).isInf = true := by
  cases negative <;> decide +kernel

/-- An infinity stays what it is if a finite number is taken away from it. -/
theorem infinite_sub_of_isFinite (negative : Bool) {x : Float} (h : x.isFinite = true) :
    (infinite negative).toFloat - x = (infinite negative).toFloat := by
  -- the subtraction runs on the unpacked numbers, by cases on their kind
  have hsub : ∀ u : Float.Model.UnpackedFloat, u.isFinite = true →
      Float.Model.pack (.sub .binary64 (infinite negative).toFloat.toModel.unpack u) =
        (infinite negative).toFloat.toModel := by
    have hunpack : (infinite negative).toFloat.toModel.unpack =
        .infinity (if negative then .negative else .positive) := by
      cases negative <;> rfl
    intro u hu
    rw [hunpack]
    cases u with
    | infinity sign => cases hu
    | notANumber => cases hu
    | zero sign => cases negative <;> rfl
    | finite sign mantissa exponent hpos => cases negative <;> rfl
  exact congrArg Float.ofModel (hsub x.toModel.unpack h)

end Binary64

/-- Both sessions have coordinates, and the other one is at an infinite latitude, or at an infinite
longitude while the first is at a finite one. -/
def Session.IsUnbounded (session other : Session) : Prop :=
  ∃ lat₁ lon₁ lat₂ lon₂,
    session.latitude = some lat₁ ∧ session.longitude = some lon₁ ∧
    other.latitude = some lat₂ ∧ other.longitude = some lon₂ ∧
    ((∃ negative, lat₂ = .infinite negative) ∨
      lon₁.toFloat.isFinite = true ∧ ∃ negative, lon₂ = .infinite negative)

namespace Trigonometry

variable (t : Trigonometry)

theorem haversine_real (dLat dLon : Float) (lat₁ lat₂ : Binary64) :
    t.haversine dLat dLon (.real lat₁) (.real lat₂) = (do
      let sLat ← t.sine (radians dLat / 2)
      let c₁ ← t.cosine (radians lat₁.toFloat)
      let c₂ ← t.cosine (radians lat₂.toFloat)
      let sLon ← t.sine (radians dLon / 2)
      t.arc (t.pow sLat 2 + c₁ * c₂ * t.pow sLon 2)) := rfl

theorem haversine_of_infinite_latitude (dLat dLon : Float) (lat₁ : Binary64) (negative : Bool) :
    t.haversine dLat dLon (.real lat₁) (.real (.infinite negative)) = .error .unboundedAngle := by
  have hcosine : t.cosine (radians (Binary64.infinite negative).toFloat) = .error .unboundedAngle :=
    if_pos (Binary64.isInf_radians_infinite negative)
  rw [haversine_real]
  refine bind_eq_error (fun _ => sine_eq_error) fun _ => ?_
  refine bind_eq_error (fun _ => cosine_eq_error) fun _ => ?_
  rw [hcosine]
  rfl

theorem haversine_of_infinite_longitude (dLat : Float) (lat₁ lat₂ : Binary64) (negative : Bool) :
    t.haversine dLat (Binary64.infinite negative).toFloat (.real lat₁) (.real lat₂) =
      .error .unboundedAngle := by
  have hsine : t.sine (radians (Binary64.infinite negative).toFloat / 2) = .error .unboundedAngle :=
    if_pos (Binary64.isInf_half_radians_infinite negative)
  rw [haversine_real]
  refine bind_eq_error (fun _ => sine_eq_error) fun _ => ?_
  refine bind_eq_error (fun _ => cosine_eq_error) fun _ => ?_
  refine bind_eq_error (fun _ => cosine_eq_error) fun _ => ?_
  rw [hsine]
  rfl

variable {session other : Session}

theorem distance_of_isUnbounded (h : session.IsUnbounded other) :
    t.distance session other = .error .unboundedAngle := by
  obtain ⟨lat₁, lon₁, lat₂, lon₂, hlat₁, hlon₁, hlat₂, hlon₂, hinfinite⟩ := h
  have hgreat : t.greatCircle lat₁ lon₁ lat₂ lon₂ = .error .unboundedAngle := by
    unfold greatCircle
    rcases hinfinite with ⟨negative, rfl⟩ | ⟨hfinite, negative, rfl⟩
    · exact t.haversine_of_infinite_latitude _ _ _ _
    · rw [Binary64.infinite_sub_of_isFinite negative hfinite]
      exact t.haversine_of_infinite_longitude _ _ _ _
  unfold distance
  rw [hlat₁, hlon₁, hlat₂, hlon₂]
  show some <$> t.greatCircle lat₁ lon₁ lat₂ lon₂ = _
  rw [hgreat]
  rfl

theorem distance_of_missing (h : other.latitude = none ∨ other.longitude = none) :
    t.distance session other = .ok none := by
  unfold distance
  rcases h with h | h
  · rw [h]
    rcases session.latitude with _ | _ <;> rcases session.longitude with _ | _ <;> rfl
  · rw [h]
    rcases session.latitude with _ | _ <;> rcases session.longitude with _ | _ <;>
      rcases other.latitude with _ | _ <;> rfl

end Trigonometry

/-! ## More peers -/

theorem Context.peers_append (context : Context) (list more : List Peer) (condition : Condition) :
    context.peers (list ++ more) condition =
      context.peers list condition ++ context.peers more condition := by
  unfold Context.peers
  rw [List.filterMap_append, List.filter_append]

/-- One entry of a list gives rise to one peer at most. -/
theorem Context.peers_singleton {context : Context} {condition : Condition} {entry : Peer}
    {peer : Session} (h : peer ∈ context.peers [entry] condition) :
    context.peers [entry] condition = [peer] := by
  unfold Context.peers at h ⊢
  cases entry with
  | current => exact absurd h List.not_mem_nil
  | other session =>
      obtain ⟨hmem, hkept⟩ := List.mem_filter.1 h
      obtain rfl : peer = session := List.mem_singleton.1 hmem
      exact List.filter_cons_of_pos hkept

theorem Trigonometry.distances_append (t : Trigonometry) (session : Session)
    (more : List Session) : ∀ peers : List Session,
    t.distances session (peers ++ more) = (do
      let found ← t.distances session peers
      let further ← t.distances session more
      return found ++ further)
  | [] => by
      show t.distances session more = t.distances session more >>= pure
      rw [bind_pure]
  | peer :: peers => by
      rw [List.cons_append, distances_cons, distances_cons, distances_append t session more peers]
      rcases t.distance session peer with failure | (_ | distance)
      · rfl
      · rfl
      · rcases t.distances session peers with failure | found
        · rfl
        · rcases t.distances session more with failure | further <;> rfl

namespace Observation

/-- A running maximum that starts at or above zero bounds what it has passed, and is one of these or
what it started from. -/
theorem foldl_max_spec : ∀ (found : List (String × Binary64)) (start : ℕ∞),
    ∃ size, found.foldl (fun most (_, distance) => most.max distance) (Binary64.ofSize start) =
        .ofSize size ∧
      start ≤ size ∧ (∀ pair ∈ found, pair.2.size ≤ size) ∧
      (size = start ∨ ∃ pair ∈ found, pair.2.size = size)
  | [], start => ⟨start, rfl, le_rfl, nofun, .inl rfl⟩
  | pair :: found, start => by
      obtain ⟨size, hsize, hstart, hbound, hreached⟩ := foldl_max_spec found (start ⊔ pair.2.size)
      refine ⟨size, ?_, le_sup_left.trans hstart, ?_, ?_⟩
      · rw [List.foldl_cons]
        show found.foldl _ ((Binary64.ofSize start).max pair.2) = _
        rw [Binary64.max_ofSize, hsize]
      · exact List.forall_mem_cons.2 ⟨le_sup_right.trans hstart, hbound⟩
      · rcases hreached with heq | ⟨other, hmem, hother⟩
        · rcases le_total pair.2.size start with hle | hle
          · exact .inl (heq.trans (sup_eq_left.2 hle))
          · exact .inr ⟨pair, List.mem_cons_self .., (heq.trans (sup_eq_right.2 hle)).symm⟩
        · exact .inr ⟨other, List.mem_cons_of_mem pair hmem, hother⟩

/-- More distances do not lower the largest one. -/
theorem largest_append (found further : List (String × Binary64)) :
    ∃ size most, size ≤ most ∧ largest found = .ofSize size ∧
      largest (found ++ further) = .ofSize most := by
  obtain ⟨size, hsize, -⟩ := foldl_max_spec found 0
  obtain ⟨most, hmost, hle, -⟩ := foldl_max_spec further size
  refine ⟨size, most, hle, hsize, ?_⟩
  rw [largest, List.foldl_append]
  exact (congrArg (further.foldl _) hsize).trans hmost

end Observation

/-! ## Thresholds that are reached -/

theorem Binary64.number?_ofSize_mono {size most : ℕ∞} (h : size ≤ most) :
    ∃ x y, (ofSize size).number? = some x ∧ (ofSize most).number? = some y ∧ x ≤ y := by
  induction most using ENat.recTopCoe with
  | top =>
      obtain ⟨x, hx⟩ : ∃ x, (ofSize size).number? = some x := by
        induction size using ENat.recTopCoe <;> exact ⟨_, rfl⟩
      exact ⟨x, ⊤, hx, rfl, le_top⟩
  | coe n =>
      obtain ⟨m, rfl⟩ := ENat.ne_top_iff_exists.1 (ne_top_of_le_ne_top (ENat.natCast_ne_top n) h)
      refine ⟨_, _, rfl, rfl, WithBot.coe_le_coe.2 (WithTop.coe_le_coe.2 ?_)⟩
      exact div_le_div_of_nonneg_right (Nat.cast_le.2 (ENat.natCast_le_natCast.1 h))
        Binary64.cast_one_pos.le

/-- The operator asks for a number above the threshold. -/
def Operator.AsksForMore (op : Operator) : Prop := op = .gt ∨ op = .gte

/-- A larger number meets what a smaller one does, where the operator asks for more. -/
theorem Condition.holds_of_le {condition : Condition} (hop : condition.operator.AsksForMore)
    {a b : Value} {x y : ExtendedRat} (ha : a.number? = some x) (hb : b.number? = some y)
    (hle : x ≤ y) (h : condition.holds a = true) : condition.holds b = true := by
  unfold Condition.holds at h ⊢
  rcases hop with hop | hop
  · rw [hop, Value.compare_gt_iff] at h ⊢
    obtain ⟨z, hz, bound, hbound, hlt⟩ := h
    obtain rfl : x = z := Option.mem_unique ha hz
    exact ⟨y, hb, bound, hbound, hlt.trans_le hle⟩
  · rw [hop, Value.compare_gte_iff] at h ⊢
    obtain ⟨z, hz, bound, hbound, hge⟩ := h
    obtain rfl : x = z := Option.mem_unique ha hz
    exact ⟨y, hb, bound, hbound, hge.trans hle⟩

theorem Condition.holds_mono {condition : Condition} (hop : condition.operator.AsksForMore)
    {size most : ℕ∞} (h : size ≤ most)
    (hholds : condition.holds (.float (.ofSize size)) = true) :
    condition.holds (.float (.ofSize most)) = true := by
  obtain ⟨x, y, hx, hy, hle⟩ := Binary64.number?_ofSize_mono h
  have ha : (Value.float (.ofSize size)).number? = some x := hx
  have hb : (Value.float (.ofSize most)).number? = some y := hy
  exact Condition.holds_of_le hop ha hb hle hholds

theorem Condition.holds_zero {condition : Condition} (hop : condition.operator.AsksForMore) :
    condition.holds (.int 0) = condition.holds (.float .zero) := by
  have hzero : (Value.int 0).real? = (Value.float .zero).real? := by decide +kernel
  unfold Condition.holds
  rcases hop with hop | hop
  · rw [hop]
    unfold Value.compare Value.ordered
    rw [hzero]
  · rw [hop]
    unfold Value.compare Value.ordered
    rw [hzero]

/-! ## The observation -/

section Observe

variable {t : Trigonometry} {context : Context} {condition : Condition}

theorem Trigonometry.activeSessionDistance_of_error {failure : Failure}
    (h : t.distances context.session (context.peers context.active condition) = .error failure) :
    t.activeSessionDistance context condition = .error failure := by
  unfold activeSessionDistance
  by_cases hempty : (context.peers context.active condition).isEmpty = true
  · rw [List.isEmpty_iff.1 hempty] at h
    cases h
  · rw [if_neg hempty, h]
    rfl

theorem Trigonometry.activeSessionDistance_of_ok (hop : condition.operator.AsksForMore)
    {found : List (String × Binary64)}
    (h : t.distances context.session (context.peers context.active condition) = .ok found) :
    ∃ finding, t.activeSessionDistance context condition = .ok finding ∧
      finding.matched = condition.holds (.float (Observation.largest found)) := by
  unfold activeSessionDistance
  by_cases hempty : (context.peers context.active condition).isEmpty = true
  · rw [List.isEmpty_iff.1 hempty] at h
    obtain rfl := Except.ok.inj h
    rw [if_pos hempty]
    exact ⟨_, rfl, Condition.holds_zero hop⟩
  · rw [if_neg hempty, h]
    exact ⟨_, rfl, rfl⟩

/-- The condition matches if every distance can be computed and the largest reaches the
threshold. -/
theorem Field.matches_distance_iff (hop : condition.operator.AsksForMore)
    (window : Except Failure Binary64) :
    Field.activeSessionDistance.Matches window context condition ↔
      ∃ found,
        Trigonometry.machine.distances context.session (context.peers context.active condition) =
          .ok found ∧
        condition.holds (.float (Observation.largest found)) = true := by
  let t := Trigonometry.machine
  show (∃ finding, t.activeSessionDistance context condition = .ok finding ∧ _) ↔ _
  cases h : t.distances context.session (context.peers context.active condition) with
  | error failure =>
      rw [Trigonometry.activeSessionDistance_of_error h]
      simp
  | ok found =>
      obtain ⟨finding, hfinding, hmatched⟩ := Trigonometry.activeSessionDistance_of_ok hop h
      rw [hfinding]
      simp [hmatched]

end Observe

/-- Let a condition match that asks for a distance above a threshold, and let one more session be
active.  If that is a peer at all, then the condition still matches exactly if the distance to it
can be computed, and otherwise the observation fails as that does.  A peer without coordinates does
not stand in the way; one at infinity does. -/
theorem Field.observe_furtherPeer {context : Context} {condition : Condition}
    (hop : condition.operator.AsksForMore) {window : Except Failure Binary64}
    (h : Field.activeSessionDistance.Matches window context condition) (further : Peer) :
    let joined := context.withLists (context.active ++ [further]) context.recent
    let matchesStill := Field.activeSessionDistance.Matches window joined condition
    let observed := Field.activeSessionDistance.observe window joined condition
    (matchesStill ↔ ∀ peer ∈ context.peers [further] condition,
      (context.session.distance peer).isOk = true) ∧
    ∀ peer ∈ context.peers [further] condition,
      (∀ failure, context.session.distance peer = .error failure → observed = .error failure) ∧
      (peer.latitude = none ∨ peer.longitude = none → matchesStill) ∧
      (context.session.IsUnbounded peer → observed = .error .unboundedAngle) := by
  intro joined matchesStill observed
  let t := Trigonometry.machine
  obtain ⟨found, hfound, hholds⟩ := (Field.matches_distance_iff hop window).1 h
  -- the distances to the earlier peers are computed first and stay what they were
  have hjoined : t.distances joined.session (joined.peers joined.active condition) = (do
      let more ← t.distances context.session (context.peers [further] condition)
      return found ++ more) := by
    have hpeers : joined.peers joined.active condition =
        context.peers context.active condition ++ context.peers [further] condition :=
      context.peers_append context.active [further] condition
    rw [hpeers]
    refine (t.distances_append context.session _ _).trans ?_
    rw [hfound]
    rfl
  have hstill : (∀ peer ∈ context.peers [further] condition,
      (context.session.distance peer).isOk = true) → matchesStill := by
    intro hok
    rw [Trigonometry.distances_ok hok] at hjoined
    obtain ⟨size, most, hle, hsize, hmost⟩ := Observation.largest_append found
      ((context.peers [further] condition).filterMap (t.measured context.session))
    refine (Field.matches_distance_iff hop window).2 ⟨_, hjoined, ?_⟩
    rw [hmost]
    rw [hsize] at hholds
    exact Condition.holds_mono hop hle hholds
  have hfails : ∀ peer ∈ context.peers [further] condition, ∀ failure,
      context.session.distance peer = .error failure → observed = .error failure := by
    intro peer hpeer failure (hfailure : t.distance context.session peer = .error failure)
    rw [Context.peers_singleton hpeer, Trigonometry.distances_cons, hfailure] at hjoined
    exact Trigonometry.activeSessionDistance_of_error hjoined
  refine ⟨⟨fun hmatches peer hpeer => ?_, hstill⟩, fun peer hpeer => ⟨hfails peer hpeer, ?_, ?_⟩⟩
  · cases hdistance : context.session.distance peer with
    | ok distance => rfl
    | error failure =>
        obtain ⟨finding, hfinding, -⟩ := hmatches
        cases hfinding.symm.trans (hfails peer hpeer failure hdistance)
  · intro hmissing
    refine hstill fun other hother => ?_
    rw [Context.peers_singleton hpeer, List.mem_singleton] at hother
    rw [hother]
    exact congrArg Except.isOk (t.distance_of_missing hmissing)
  · exact fun hunbounded => hfails peer hpeer _ (t.distance_of_isUnbounded hunbounded)

/-- A further session without a latitude, and one at an infinite latitude. -/
theorem Field.observe_furtherPeer_pair :
    let placed (latitude : Option Binary64) : Session :=
      { Context.lone.session with latitude, longitude := some .zero }
    let context : Context := { Context.lone with session := placed (some .zero) }
    let condition : Condition :=
      { field := .known .activeSessionDistance, operator := .gte, value := .scalar (.int 0) }
    let joined (latitude : Option Binary64) :=
      context.withLists (context.active ++ [.other (placed latitude)]) context.recent
    condition.operator.AsksForMore ∧
      Field.activeSessionDistance.Matches (.error .noRule) context condition ∧
      placed none ∈ context.peers [.other (placed none)] condition ∧
      Field.activeSessionDistance.Matches (.error .noRule) (joined none) condition ∧
      placed (some (.infinite false)) ∈
        context.peers [.other (placed (some (.infinite false)))] condition ∧
      Field.activeSessionDistance.observe (.error .noRule) (joined (some (.infinite false)))
        condition = .error .unboundedAngle := by
  intro placed context condition joined
  have hop : condition.operator.AsksForMore := .inr rfl
  have hmatches : Field.activeSessionDistance.Matches (.error .noRule) context condition :=
    (Field.matches_distance_iff hop _).2 ⟨[], rfl, by decide +kernel⟩
  have hmissing : placed none ∈ context.peers [.other (placed none)] condition := by
    decide +kernel
  have hinfinite : placed (some (.infinite false)) ∈
      context.peers [.other (placed (some (.infinite false)))] condition := by
    decide +kernel
  obtain ⟨-, hpeer⟩ := Field.observe_furtherPeer hop hmatches (.other (placed none))
  obtain ⟨-, hpeer'⟩ :=
    Field.observe_furtherPeer hop hmatches (.other (placed (some (.infinite false))))
  refine ⟨hop, hmatches, hmissing, (hpeer _ hmissing).2.1 (.inl rfl), hinfinite, ?_⟩
  exact (hpeer' _ hinfinite).2.2 ⟨_, _, _, _, rfl, rfl, rfl, rfl, .inl ⟨false, rfl⟩⟩

/-- A condition that matches fails as soon as a session at an infinite latitude is active too. -/
theorem Field.observe_distance_hidden :
    let placed (latitude : Binary64) : Session :=
      { Context.lone.session with latitude := some latitude, longitude := some .zero }
    let context : Context := { Context.lone with session := placed .zero }
    let condition : Condition :=
      { field := .known .activeSessionDistance, operator := .gte, value := .scalar (.int 0) }
    let matched (context : Context) :=
      (Field.activeSessionDistance.observe (.error .noRule) context condition).map (·.matched)
    matched context = .ok true ∧
      matched (context.withLists (context.active ++ [.other (placed (.infinite false))]) []) =
        .error .unboundedAngle := by
  decide +kernel

end PlaybackRules
