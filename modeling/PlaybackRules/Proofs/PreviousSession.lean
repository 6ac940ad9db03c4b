import PlaybackRules.Proofs.Travel
import PlaybackRules.Proofs.Trigonometry

/-!
# The previous session

The speed of travel is measured from one session alone, the first of those that started last
(`Observation.latest_eq_some_iff`).  Sessions that started before it may come and go
(`Session.IsFirstLatest.of_filter`).  From a session that did not start before the current one there
is no time to travel, so that the speed over any distance is infinite; from one that did, even a
microsecond is time enough to make the speed over a distance once around the globe a finite number
(`Observation.speed_eq_infinite_iff`), and no distance is larger if the angle of a point is half a
turn at most.  `Observation.travelSpeed_of_previous` puts this together.
-/

namespace PlaybackRules

/-! ## The first of those that started last -/

/-- Is a session the first of those in a list that started last? -/
def Session.IsFirstLatest (session : Session) (sessions : List Session) : Prop :=
  ∃ before after, sessions = before ++ session :: after ∧
    (∀ other ∈ before, other.startedAt.instant < session.startedAt.instant) ∧
    ∀ other ∈ after, other.startedAt.instant ≤ session.startedAt.instant

/-- It is if nothing comes before it once those that started earlier are left out, and nothing
started later. -/
theorem Session.isFirstLatest_iff_filter {session : Session} {sessions : List Session} :
    session.IsFirstLatest sessions ↔
      ∃ after, sessions.filter (fun other => !session.isLater other) = session :: after ∧
        ∀ other ∈ after, other.startedAt.instant ≤ session.startedAt.instant := by
  have hself : (!session.isLater session) = true := by simp [isLater]
  constructor
  · rintro ⟨before, after, rfl, hbefore, hafter⟩
    have hnone : before.filter (fun other => !session.isLater other) = [] := by
      refine List.filter_eq_nil_iff.2 fun other hother => ?_
      rw [isLater_iff.2 (hbefore other hother)]
      exact Bool.false_ne_true
    refine ⟨after.filter fun other => !session.isLater other, ?_, fun other hother => ?_⟩
    · rw [List.filter_append, hnone, List.nil_append]
      exact List.filter_cons_of_pos hself
    · exact hafter other (List.mem_of_mem_filter hother)
  · rintro ⟨rest, hfilter, hrest⟩
    obtain ⟨before, after, rfl, hbefore, -, rfl⟩ := List.filter_eq_cons_iff.1 hfilter
    refine ⟨before, after, rfl, fun other hother => ?_, fun other hother => ?_⟩
    · have hdropped := hbefore other hother
      rw [Bool.not_eq_true, Bool.not_eq_false'] at hdropped
      exact isLater_iff.1 hdropped
    · -- a session after it that is left out started earlier, and any other not later
      cases hlater : session.isLater other with
      | true => exact (isLater_iff.1 hlater).le
      | false => exact hrest other (List.mem_filter.2 ⟨hother, by rw [hlater]; rfl⟩)

/-- Sessions that started earlier may be put in and taken out anywhere. -/
theorem Session.IsFirstLatest.of_filter {session : Session} {sessions sessions' : List Session}
    (h : session.IsFirstLatest sessions)
    (heq : sessions'.filter (fun other => !session.isLater other) =
      sessions.filter fun other => !session.isLater other) :
    session.IsFirstLatest sessions' := by
  rw [isFirstLatest_iff_filter] at h ⊢
  rwa [heq]

namespace Observation

theorem isFirstLatest_of_latest : ∀ {sessions : List Session} {best : Session},
    latest sessions = some best → best.IsFirstLatest sessions
  | [], _, h => by cases h
  | session :: sessions, best, h => by
      rw [latest_cons] at h
      cases hrest : latest sessions with
      | none =>
          rw [hrest] at h
          obtain rfl := Option.some.inj h
          refine ⟨[], sessions, rfl, fun _ hmem => absurd hmem List.not_mem_nil, fun _ hmem => ?_⟩
          obtain ⟨other, hother⟩ := exists_latest hmem
          cases hrest.symm.trans hother
      | some rest =>
          rw [hrest] at h
          by_cases hlt : session.startedAt.instant < rest.startedAt.instant
          · obtain rfl := Option.some.inj ((if_pos hlt).symm.trans h)
            obtain ⟨before, after, rfl, hbefore, hafter⟩ := isFirstLatest_of_latest hrest
            exact ⟨session :: before, after, rfl, List.forall_mem_cons.2 ⟨hlt, hbefore⟩, hafter⟩
          · obtain rfl := Option.some.inj ((if_neg hlt).symm.trans h)
            exact ⟨[], sessions, rfl, fun _ hmem => absurd hmem List.not_mem_nil,
              fun _ hmem => (le_latest hrest hmem).trans (not_lt.1 hlt)⟩

theorem latest_eq_some_iff {sessions : List Session} {best : Session} :
    latest sessions = some best ↔ best.IsFirstLatest sessions := by
  refine ⟨isFirstLatest_of_latest, ?_⟩
  rintro ⟨before, after, rfl, hbefore, hafter⟩
  induction before with
  | nil =>
      refine latest_cons_of_not_isLater fun other hother => ?_
      exact decide_eq_false (not_lt.2 (hafter other hother))
  | cons session before ih =>
      obtain ⟨hlt, hbefore⟩ := List.forall_mem_cons.1 hbefore
      exact latest_cons_of_lt (ih hbefore) hlt

end Observation

/-! ## The time between -/

namespace Binary64

theorem div_finite (negative : Bool) (steps : Nat) {den : Nat} (hden : 0 < den) :
    finite negative steps / finite false den =
      ofSteps (negative != false) (roundSteps (steps * one) den) := by
  have hne : ¬(den == 0) = true := fun h => hden.ne' (eq_of_beq h)
  have hdiv : finite negative steps / finite false den =
      if den == 0 then (if steps == 0 then nan else infinite (negative != false))
      else quotient (negative, steps) (false, den) := rfl
  rw [hdiv, if_neg hne, quotient]

end Binary64

namespace Observation

/-- The steps of the hours in one microsecond. -/
def microsecond : Nat :=
  Binary64.roundSteps (Binary64.roundSteps Binary64.one 1000000 * Binary64.one)
    (3600 * Binary64.one)

theorem microsecond_pos : 0 < microsecond := by decide +kernel

/-- Any time that passes is at least a microsecond, in hours too. -/
theorem hoursOf_of_pos {micros : Int} (h : 0 < micros) :
    hoursOf micros = .infinite false ∨
      ∃ steps, microsecond ≤ steps ∧ hoursOf micros = .finite false steps := by
  have hhour : 0 < 3600 * Binary64.one := by decide +kernel
  have hseconds : hoursOf micros =
      Binary64.ofSteps false (Binary64.roundSteps (micros.natAbs * Binary64.one) 1000000) /
        .finite false (3600 * Binary64.one) := by
    have hsign : decide (micros < 0) = false := decide_eq_false (by omega)
    rw [hoursOf, hsign]
    rfl
  have hleast : Binary64.roundSteps Binary64.one 1000000 ≤
      Binary64.roundSteps (micros.natAbs * Binary64.one) 1000000 := by
    refine Binary64.roundSteps_mono (by decide) (by decide) (Nat.mul_le_mul_right 1000000 ?_)
    exact Nat.le_mul_of_pos_left Binary64.one (by omega)
  rw [hseconds]
  generalize Binary64.roundSteps (micros.natAbs * Binary64.one) 1000000 = seconds at hleast
  unfold Binary64.ofSteps
  split
  · rw [Binary64.div_finite false seconds hhour, Binary64.ofSteps]
    split
    · refine .inr ⟨_, ?_, rfl⟩
      exact Binary64.roundSteps_mono hhour hhour
        (Nat.mul_le_mul_right _ (Nat.mul_le_mul_right Binary64.one hleast))
    · exact .inl rfl
  · exact .inl rfl

theorem zero_below_hoursOf {micros : Int} (h : 0 < micros) :
    Binary64.zero.below (hoursOf micros) = true := by
  rcases hoursOf_of_pos h with hhours | ⟨steps, hsteps, hhours⟩
  · rw [hhours]
    rfl
  · rw [hhours]
    have hpos := microsecond_pos.trans_le hsteps
    exact decide_eq_true (Int.natCast_pos.2 hpos)

/-! ## The speed -/

/-- Over a distance on Earth the speed is finite as soon as any time passes. -/
theorem div_hoursOf_ne_infinite {distance : Binary64}
    (hdistance : circumference.below distance = false) {micros : Int} (h : 0 < micros) :
    distance / hoursOf micros ≠ .infinite false := by
  have hlimit : Binary64.roundSteps (40031 * Binary64.one * Binary64.one) microsecond <
      Binary64.limit := by
    decide +kernel
  have hminus : Binary64.infinite true ≠ .infinite false := by decide
  rcases hoursOf_of_pos h with hhours | ⟨steps, hsteps, hhours⟩
  · rw [hhours]
    rcases distance with _ | _ | _ <;> exact Binary64.noConfusion
  · rw [hhours]
    have hpos := microsecond_pos.trans_le hsteps
    rcases distance with _ | (_ | _) | ⟨_ | _, n⟩
    · exact Binary64.noConfusion
    · exact absurd hdistance Bool.noConfusion
    · exact hminus
    · have hn : n ≤ 40031 * Binary64.one := by
        simp only [circumference, Binary64.below, Binary64.place?, Place.below, Bool.false_eq_true,
          if_false, decide_eq_false_iff_not] at hdistance
        omega
      have hround : Binary64.roundSteps (n * Binary64.one) steps < Binary64.limit := by
        refine Nat.lt_of_le_of_lt (Binary64.roundSteps_mono hpos microsecond_pos ?_) hlimit
        exact Nat.mul_le_mul (Nat.mul_le_mul_right Binary64.one hn) hsteps
      rw [Binary64.div_finite false n hpos, Binary64.ofSteps, if_pos hround]
      exact Binary64.noConfusion
    · rw [Binary64.div_finite true n hpos, Binary64.ofSteps]
      split
      · exact Binary64.noConfusion
      · exact hminus

theorem speed_of_nonpos {micros : Int} (h : micros ≤ 0) (distance : Binary64) :
    speed distance micros = if Binary64.zero.below distance then .infinite false else .zero :=
  if_pos h

theorem speed_of_pos {micros : Int} (h : 0 < micros) (distance : Binary64) :
    speed distance micros = distance / hoursOf micros := if_neg (by omega)

/-- The speed over a distance on Earth is infinite if and only if no time passes. -/
theorem speed_eq_infinite_iff {distance : Binary64}
    (hdistance : circumference.below distance = false) (micros : Int) :
    speed distance micros = .infinite false ↔
      Binary64.zero.below distance = true ∧ micros ≤ 0 := by
  rcases Int.lt_or_le 0 micros with hpos | hle
  · rw [speed_of_pos hpos]
    exact iff_of_false (div_hoursOf_ne_infinite hdistance hpos) fun h => absurd h.2 (by omega)
  · rw [speed_of_nonpos hle]
    cases Binary64.zero.below distance with
    | false => exact iff_of_false nofun fun h => absurd h.1 Bool.false_ne_true
    | true => exact iff_of_true rfl ⟨rfl, hle⟩

theorem isZero_speed {distance : Binary64} (hdistance : distance.isZero = true) (micros : Int) :
    (speed distance micros).isZero = true := by
  obtain ⟨negative, rfl⟩ : ∃ negative, distance = .finite negative 0 := by
    rcases distance with _ | _ | ⟨negative, steps⟩
    · cases hdistance
    · cases hdistance
    · exact ⟨negative, by rw [eq_of_beq hdistance]⟩
  rcases Int.lt_or_le 0 micros with hpos | hle
  · rw [speed_of_pos hpos]
    rcases hoursOf_of_pos hpos with hhours | ⟨steps, hsteps, hhours⟩
    · rw [hhours]
      rfl
    · have hpos := microsecond_pos.trans_le hsteps
      have hlimit : 0 < Binary64.limit := by decide +kernel
      rw [hhours, Binary64.div_finite negative 0 hpos, Nat.zero_mul,
        Binary64.roundSteps_zero hpos, Binary64.ofSteps, if_pos hlimit]
      rfl
  · have hbelow : Binary64.zero.below (.finite negative 0) = false := by cases negative <;> rfl
    rw [speed_of_nonpos hle, hbelow]
    rfl

/-! ## The finding -/

variable {t : Trigonometry} {session previous : Session}

theorem travelFrom_of_distance {distance : Binary64}
    (h : t.distance session previous = .ok (some distance)) (condition : Condition) :
    let micros := session.startedAt.since previous.startedAt
    t.travelFrom session previous condition = .ok {
      matched := condition.holds (.float (speed distance micros))
      actual := .float (speed distance micros).roundHundredths
      related := some [previous.id]
      details := some [
        ("distance", .float distance.roundHundredths),
        ("time_delta_hours", .float (hoursOf micros).roundHundredths),
        ("previous_location", location previous),
        ("current_location", location session)] } := by
  unfold Trigonometry.travelFrom
  rw [h]
  rfl

theorem related_travelFrom {condition : Condition} {finding : Finding}
    (h : t.travelFrom session previous condition = .ok finding) :
    finding.related = some [previous.id] := by
  unfold Trigonometry.travelFrom at h
  cases hdistance : t.distance session previous with
  | error failure =>
      rw [hdistance] at h
      cases h
  | ok distance? =>
      rw [hdistance] at h
      cases distance? with
      | none =>
          obtain rfl := Except.ok.inj h
          rfl
      | some distance =>
          obtain rfl := Except.ok.inj h
          rfl

theorem isOk_travelFrom (condition : Condition) :
    (t.travelFrom session previous condition).isOk = (t.distance session previous).isOk := by
  unfold Trigonometry.travelFrom
  rcases t.distance session previous with _ | _ | _ <;> rfl

/-- What holds of the speed over a distance to a session from a previous one. -/
structure SpeedBetween (previous session : Session) (distance speed : Binary64) : Prop where
  /-- If the previous one did not start before, no distance can be travelled. -/
  infinite : Binary64.zero.below distance = true →
    session.startedAt.instant ≤ previous.startedAt.instant → speed = .infinite false
  /-- In no other case is a distance too far, if it goes around the Earth once at most. -/
  of_infinite : circumference.below distance = false → speed = .infinite false →
    Binary64.zero.below distance = true ∧
      session.startedAt.instant ≤ previous.startedAt.instant
  /-- To stay at one place takes no speed. -/
  zero : distance.isZero = true → speed.isZero = true
  /-- If the previous one started before, some time has passed, which divides the distance. -/
  quotient : previous.startedAt.instant < session.startedAt.instant →
    let hours := hoursOf (session.startedAt.since previous.startedAt)
    Binary64.zero.below hours = true ∧ speed = distance / hours

theorem speedBetween (previous session : Session) (distance : Binary64) :
    SpeedBetween previous session distance
      (speed distance (session.startedAt.since previous.startedAt)) where
  infinite hbelow hle := by
    have hmicros : session.startedAt.since previous.startedAt ≤ 0 := Int.sub_nonpos_of_le hle
    rw [speed_of_nonpos hmicros, if_pos hbelow]
  of_infinite hdistance hspeed := by
    obtain ⟨hbelow, hmicros⟩ := (speed_eq_infinite_iff hdistance _).1 hspeed
    exact ⟨hbelow, Int.le_of_sub_nonpos hmicros⟩
  zero hzero := isZero_speed hzero _
  quotient hlt := by
    have hmicros : 0 < session.startedAt.since previous.startedAt := Int.sub_pos_of_lt hlt
    exact ⟨zero_below_hoursOf hmicros, speed_of_pos hmicros distance⟩

/-- Let the user have been at another session.  Then the finding is about the first of those that
started last, which is the one related session.  It depends on no other one; in particular sessions
that started earlier may be put in and taken out anywhere.  Where both places are known, the speed
is that of the distance between them, by the laws of `SpeedBetween`; and if no angle is more than
half a turn, that speed is infinite exactly if a distance was travelled in no time.  All of this is
so whichever functions of angles the distances are computed with, those of the machine among
them. -/
theorem travelSpeed_of_previous (t : Trigonometry) {context : Context} {condition : Condition}
    (h : context.peers context.recent condition ≠ []) :
    Trigonometry.machine.travelSpeed = travelSpeed ∧
    let peers (recent : List Peer) := context.peers recent condition
    let travel (recent : List Peer) :=
      t.travelSpeed (context.withLists context.active recent) condition
    ∃ previous, previous.IsFirstLatest (peers context.recent) ∧
      (∀ recent, previous.IsFirstLatest (peers recent) →
        travel recent = t.travelFrom context.session previous condition) ∧
      (∀ recent, (peers recent).filter (fun peer => !previous.isLater peer) =
          (peers context.recent).filter (fun peer => !previous.isLater peer) →
        travel recent = t.travelSpeed context condition) ∧
      (t.travelSpeed context condition).isOk = (t.distance context.session previous).isOk ∧
      (∀ finding, t.travelSpeed context condition = .ok finding →
        finding.related = some [previous.id]) ∧
      let speedOver (distance : Binary64) :=
        speed distance (context.session.startedAt.since previous.startedAt)
      (∀ lat₁ lon₁ lat₂ lon₂ distance,
        context.session.latitude = some lat₁ ∧ context.session.longitude = some lon₁ →
        previous.latitude = some lat₂ ∧ previous.longitude = some lon₂ →
        t.greatCircle lat₁ lon₁ lat₂ lon₂ = .ok distance →
          (∃ finding, t.travelSpeed context condition = .ok finding ∧
            finding.matched = condition.holds (.float (speedOver distance)) ∧
            finding.actual = .float (speedOver distance).roundHundredths) ∧
          (t.WithinHalfTurn → (speedOver distance = .infinite false ↔
            Binary64.zero.below distance = true ∧
              context.session.startedAt.instant ≤ previous.startedAt.instant))) ∧
      ∀ distance, SpeedBetween previous context.session distance (speedOver distance) := by
  refine ⟨rfl, ?_⟩
  intro peers travel
  obtain ⟨peer, hpeer⟩ := List.exists_mem_of_ne_nil _ h
  obtain ⟨previous, hlatest⟩ := exists_latest hpeer
  have hprevious := isFirstLatest_of_latest hlatest
  have htravel : ∀ recent, previous.IsFirstLatest (peers recent) →
      travel recent = t.travelFrom context.session previous condition :=
    fun recent hrecent => travelSpeed_of_latest t (latest_eq_some_iff.2 hrecent)
  have hthis := htravel context.recent hprevious
  refine ⟨previous, hprevious, htravel, fun recent heq => ?_, ?_, fun finding hfinding => ?_, ?_,
    fun distance => speedBetween previous context.session distance⟩
  · exact (htravel recent (hprevious.of_filter heq)).trans hthis.symm
  · exact (congrArg Except.isOk hthis).trans (isOk_travelFrom condition)
  · exact related_travelFrom (hthis.symm.trans hfinding)
  · rintro lat₁ lon₁ lat₂ lon₂ distance ⟨hlat₁, hlon₁⟩ ⟨hlat₂, hlon₂⟩ hcircle
    have hdistance : t.distance context.session previous = .ok (some distance) := by
      unfold Trigonometry.distance
      rw [hlat₁, hlon₁, hlat₂, hlon₂]
      exact congrArg (some <$> ·) hcircle
    refine ⟨⟨_, hthis.trans (travelFrom_of_distance hdistance condition), rfl, rfl⟩, fun law => ?_⟩
    have hlaws := speedBetween previous context.session distance
    exact ⟨hlaws.of_infinite (Trigonometry.greatCircle_within law hcircle),
      fun hnone => hlaws.infinite hnone.1 hnone.2⟩

/-- Of two sessions that started at once, an hour before the current one and written at different
offsets, the first is the previous one, whether or not an earlier session is known.  Eighty
kilometres to it are travelled at a finite speed, and so is the distance to the opposite side of the
Earth. -/
theorem travelSpeed_of_previous_tie :
    let condition : Condition :=
      { field := .known .travelSpeed, operator := .gt, value := .scalar (.int 500) }
    let moment (seconds : Nat) (h : (CivilTime.ofSeconds? seconds 0).isSome) : Moment :=
      ⟨(CivilTime.ofSeconds? seconds 0).get h, .utc⟩
    let opposite : Binary64 := .ofRatio false 180 1
    let early : Session := { Context.lone.session with
      id := "early", latitude := some .zero, longitude := some opposite }
    let first : Session := { early with id := "first", startedAt := moment 3600 rfl }
    let second : Session :=
      { first with id := "second", startedAt := { moment 7200 rfl with offset := ⟨60, by decide⟩ } }
    let context : Context := { Context.lone with
      session := { early with
        id := "session", longitude := some .zero, startedAt := moment 7200 rfl }
      recent := [.other early, .other first, .current, .other second] }
    let t := Trigonometry.equatorial
    context.peers context.recent condition ≠ [] ∧
      travelSpeed (context.withLists [] [.other first, .other second]) condition =
        travelSpeed context condition ∧
      (∀ finding, travelSpeed context condition = .ok finding →
        finding.related = some ["first"]) ∧
      speed (.finite false (80 * Binary64.one))
        (context.session.startedAt.since first.startedAt) ≠ .infinite false ∧
      t.WithinHalfTurn ∧
      ∃ distance, t.greatCircle .zero .zero .zero opposite = .ok distance ∧
        Binary64.zero.below distance = true ∧
        speed distance (context.session.startedAt.since first.startedAt) ≠ .infinite false := by
  intro condition moment opposite early first second context t
  have hpeers : context.peers context.recent condition ≠ [] := by decide +kernel
  have hlatest : latest (context.peers context.recent condition) = some first := by decide +kernel
  have hfirst : ∀ previous : Session,
      previous.IsFirstLatest (context.peers context.recent condition) → previous = first :=
    fun previous hprevious =>
      Option.some.inj ((latest_eq_some_iff.2 hprevious).symm.trans hlatest)
  have hbefore : ¬context.session.startedAt.instant ≤ first.startedAt.instant := by decide +kernel
  have hcircle : t.greatCircle .zero .zero .zero opposite =
      .ok (earthRadius * (.finite false (2 * Binary64.one) * .ofFloat 1.5707963267948966)) := by
    decide +kernel
  obtain ⟨-, previous, hprevious, -, hearlier, -, hrelated, -, hspeed⟩ :=
    travelSpeed_of_previous .machine hpeers
  obtain rfl := hfirst previous hprevious
  obtain ⟨-, previous', hprevious', -, -, -, -, hplaces, -⟩ := travelSpeed_of_previous t hpeers
  obtain rfl := hfirst previous' hprevious'
  refine ⟨hpeers, hearlier _ (by decide +kernel), hrelated, fun hinfinite => ?_,
    Trigonometry.withinHalfTurn_equatorial, _, hcircle, by decide +kernel, fun hinfinite => ?_⟩
  · have hwithin : circumference.below (.finite false (80 * Binary64.one)) = false := by
      decide +kernel
    exact hbefore ((hspeed _).of_infinite hwithin hinfinite).2
  · obtain ⟨-, hiff⟩ := hplaces .zero .zero .zero opposite _ ⟨rfl, rfl⟩ ⟨rfl, rfl⟩ hcircle
    exact hbefore ((hiff Trigonometry.withinHalfTurn_equatorial).1 hinfinite).2

end Observation

end PlaybackRules
