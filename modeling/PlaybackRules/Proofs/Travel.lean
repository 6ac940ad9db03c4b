import PlaybackRules.Proofs.Behaviour

/-!
# Travel to a session that started later

The speed of travel is measured from the session of the user that started last, also when that
was after the current one.  Such a session takes the place of all that did not start after the
current one: they have no part in the finding any more (`Observation.latest_filter_isLater`).  And
as nobody can travel back in time, the speed is infinite as soon as the later session was at another
place (`Observation.travelSpeed_of_later`).
-/

namespace PlaybackRules

/-- Did the session start after the other? -/
def Session.isLater (session other : Session) : Bool :=
  decide (other.startedAt.instant < session.startedAt.instant)

theorem Session.isLater_iff {session other : Session} :
    session.isLater other = true ↔ other.startedAt.instant < session.startedAt.instant :=
  decide_eq_true_iff

theorem Binary64.roundHundredths_zero : Binary64.zero.roundHundredths = .zero := by
  decide +kernel

namespace Observation

/-! ## The session that started last -/

theorem latest_cons (session : Session) (sessions : List Session) :
    latest (session :: sessions) =
      match latest sessions with
      | none => some session
      | some best =>
        if session.startedAt.instant < best.startedAt.instant then some best else some session := by
  rw [latest_eq_argmax, latest_eq_argmax, List.argmax_cons]
  cases sessions.argmax (·.startedAt.instant) <;> rfl

theorem mem_latest {sessions : List Session} {best : Session} (h : latest sessions = some best) :
    best ∈ sessions := by
  rw [latest_eq_argmax] at h
  exact List.argmax_mem h

theorem le_latest {sessions : List Session} {best session : Session}
    (h : latest sessions = some best) (hmem : session ∈ sessions) :
    session.startedAt.instant ≤ best.startedAt.instant := by
  rw [latest_eq_argmax] at h
  exact List.le_of_mem_argmax (f := fun s : Session => s.startedAt.instant) hmem h

theorem exists_latest {sessions : List Session} {session : Session} (hmem : session ∈ sessions) :
    ∃ best, latest sessions = some best := by
  cases h : latest sessions with
  | some best => exact ⟨best, rfl⟩
  | none =>
      rw [latest_eq_argmax, List.argmax_eq_none] at h
      rw [h] at hmem
      exact absurd hmem List.not_mem_nil

theorem latest_cons_of_lt {session best : Session} {sessions : List Session}
    (h : latest sessions = some best)
    (hlt : session.startedAt.instant < best.startedAt.instant) :
    latest (session :: sessions) = some best := by
  rw [latest_cons, h]
  exact if_pos hlt

/-- A session is the first of those that started last if it comes first and none started later. -/
theorem latest_cons_of_not_isLater {session : Session} {sessions : List Session}
    (h : ∀ other ∈ sessions, other.isLater session = false) :
    latest (session :: sessions) = some session := by
  rw [latest_cons]
  cases hbest : latest sessions with
  | none => rfl
  | some best =>
      refine if_neg fun hlt => ?_
      have hnot := h best (mem_latest hbest)
      rw [Session.isLater_iff.2 hlt] at hnot
      cases hnot

/-- Once a session started after another one, those that did not have no part in which started
last. -/
theorem latest_filter_isLater (session : Session) : ∀ {sessions : List Session},
    (∃ later ∈ sessions, later.isLater session = true) →
      latest (sessions.filter (·.isLater session)) = latest sessions
  | [], ⟨_, hmem, _⟩ => absurd hmem List.not_mem_nil
  | first :: sessions, ⟨later, hmem, hlater⟩ => by
      by_cases hsome : ∃ later ∈ sessions, later.isLater session = true
      · have hrest := latest_filter_isLater session hsome
        obtain ⟨later, hmem, hlater⟩ := hsome
        cases hfirst : first.isLater session with
        | true =>
            have hkept : (first :: sessions).filter (·.isLater session) =
                first :: sessions.filter (·.isLater session) := List.filter_cons_of_pos hfirst
            rw [hkept, latest_cons, latest_cons, hrest]
        | false =>
            -- the first did not start after the session, so it started before the best of the rest
            obtain ⟨best, hbest⟩ := exists_latest hmem
            have hle := le_latest hbest hmem
            have hlt := Session.isLater_iff.1 hlater
            have hnot : ¬session.startedAt.instant < first.startedAt.instant :=
              fun hafter => absurd (Session.isLater_iff.2 hafter) (ne_true_of_eq_false hfirst)
            have hdropped : (first :: sessions).filter (·.isLater session) =
                sessions.filter (·.isLater session) :=
              List.filter_cons_of_neg (ne_true_of_eq_false hfirst)
            rw [hdropped, hrest, hbest]
            exact (latest_cons_of_lt hbest (by omega)).symm
      · -- only the first started after the session, so none of the rest started after the first
        have hnot : ∀ other ∈ sessions, other.isLater session = false :=
          fun other hother => eq_false_of_ne_true fun h => hsome ⟨other, hother, h⟩
        have hfirst : first.isLater session = true := by
          rcases List.mem_cons.1 hmem with rfl | hmem
          · exact hlater
          · exact absurd ⟨later, hmem, hlater⟩ hsome
        have hnone : sessions.filter (·.isLater session) = [] :=
          List.filter_eq_nil_iff.2 fun other hother => ne_true_of_eq_false (hnot other hother)
        have hkept : (first :: sessions).filter (·.isLater session) = [first] := by
          rw [← hnone]
          exact List.filter_cons_of_pos hfirst
        have hlast : latest (first :: sessions) = some first := by
          refine latest_cons_of_not_isLater fun other hother => ?_
          refine eq_false_of_ne_true fun hafter => hsome ⟨other, hother, ?_⟩
          have hlt := Session.isLater_iff.1 hfirst
          exact Session.isLater_iff.2 (hlt.trans (Session.isLater_iff.1 hafter))
        rw [hkept, hlast]
        exact latest_cons_of_not_isLater fun _ hmem => absurd hmem List.not_mem_nil

/-! ## The speed -/

/-- What is found about the travel from a previous session, with the functions of the machine. -/
def travelFrom : Session → Session → Condition → Except Failure Finding :=
  Trigonometry.machine.travelFrom

theorem travelSpeed_of_latest (t : Trigonometry) {context : Context} {condition : Condition}
    {previous : Session} (h : latest (context.peers context.recent condition) = some previous) :
    t.travelSpeed context condition = t.travelFrom context.session previous condition := by
  unfold Trigonometry.travelSpeed
  rw [h]

/-- From a session that starts later there is no time to travel. -/
theorem speed_of_isLater {session previous : Session} (h : previous.isLater session = true)
    (distance : Binary64) :
    speed distance (session.startedAt.since previous.startedAt) =
      if Binary64.zero.below distance then .infinite false else .zero := by
  have hmicros : session.startedAt.since previous.startedAt ≤ 0 := by
    have hlt := Session.isLater_iff.1 h
    unfold Moment.since
    omega
  exact if_pos hmicros

/-- So the speed from such a session is infinite, or zero if it is not known to be apart. -/
theorem travelFrom_of_isLater {t : Trigonometry} {session previous : Session}
    (h : previous.isLater session = true) {condition : Condition} {finding : Finding}
    (hfinding : t.travelFrom session previous condition = .ok finding) :
    finding.related = some [previous.id] ∧
      finding.matched = condition.holds finding.actual ∧
      finding.actual = match t.distance session previous with
        | .ok (some distance) =>
            .float (if Binary64.zero.below distance then .infinite false else .zero)
        | _ => .int 0 := by
  unfold Trigonometry.travelFrom at hfinding
  cases hdistance : t.distance session previous with
  | error failure =>
      rw [hdistance] at hfinding
      cases hfinding
  | ok distance? =>
      rw [hdistance] at hfinding
      cases distance? with
      | none =>
          obtain rfl := Except.ok.inj hfinding
          exact ⟨rfl, rfl, rfl⟩
      | some distance =>
          have hspeed := speed_of_isLater h distance
          have hrounded :
              (speed distance (session.startedAt.since previous.startedAt)).roundHundredths =
                speed distance (session.startedAt.since previous.startedAt) := by
            rw [hspeed]
            cases Binary64.zero.below distance with
            | false => exact Binary64.roundHundredths_zero
            | true => rfl
          obtain rfl := Except.ok.inj hfinding
          refine ⟨rfl, ?_, ?_⟩
          · exact congrArg (fun speed => condition.holds (.float speed)) hrounded.symm
          · exact congrArg Value.float (hrounded.trans hspeed)

/-- Let a session of the user have started after the current one.  Then the finding is about the
last such session, and those that did not start after the current one have no part in it.  It says
that the speed is infinite or, at one and the same place or at places unknown, zero. -/
theorem travelSpeed_of_later {context : Context} {condition : Condition}
    (h : ∃ later ∈ context.peers context.recent condition,
      later.isLater context.session = true) :
    let laterPeers (recent : List Peer) :=
      (context.peers recent condition).filter (·.isLater context.session)
    ∃ previous ∈ laterPeers context.recent,
      (∀ peer ∈ context.peers context.recent condition,
        peer.startedAt.instant ≤ previous.startedAt.instant) ∧
      travelSpeed context condition = travelFrom context.session previous condition ∧
      (∀ recent, laterPeers recent = laterPeers context.recent →
        travelSpeed (context.withLists context.active recent) condition =
          travelSpeed context condition) ∧
      ∀ finding, travelSpeed context condition = .ok finding →
        finding.related = some [previous.id] ∧
        finding.matched = condition.holds finding.actual ∧
        finding.actual = match context.session.distance previous with
          | .ok (some distance) =>
              .float (if Binary64.zero.below distance then .infinite false else .zero)
          | _ => .int 0 := by
  intro laterPeers
  -- the last of all sessions is the last of those that started after the current one
  have hlatest : ∀ recent, laterPeers recent = laterPeers context.recent →
      latest (context.peers recent condition) = latest (laterPeers context.recent) := by
    intro recent hrecent
    obtain ⟨later, hmem, hlater⟩ := h
    have hkept : later ∈ laterPeers context.recent := List.mem_filter.2 ⟨hmem, hlater⟩
    rw [← hrecent] at hkept ⊢
    exact (latest_filter_isLater context.session ⟨later, List.mem_filter.1 hkept⟩).symm
  have hlast := hlatest context.recent rfl
  obtain ⟨later, hlater⟩ := h
  have hkept : later ∈ laterPeers context.recent := List.mem_filter.2 hlater
  obtain ⟨previous, hprevious⟩ := exists_latest hkept
  have hmem : previous ∈ laterPeers context.recent := mem_latest hprevious
  have htravel : ∀ recent, laterPeers recent = laterPeers context.recent →
      travelSpeed (context.withLists context.active recent) condition =
        travelFrom context.session previous condition := by
    intro recent hrecent
    have hpeers : latest (context.peers recent condition) = some previous :=
      (hlatest recent hrecent).trans hprevious
    exact travelSpeed_of_latest .machine hpeers
  refine ⟨previous, hmem, fun peer => le_latest (hlast.trans hprevious), htravel _ rfl,
    fun recent hrecent => (htravel recent hrecent).trans (htravel _ rfl).symm,
    fun finding hfinding => ?_⟩
  exact travelFrom_of_isLater (List.mem_filter.1 hmem).2 ((htravel _ rfl).symm.trans hfinding)

/-- One session started an hour before the current one, and another an hour after. -/
theorem travelSpeed_of_later_hour :
    let condition : Condition :=
      { field := .known .travelSpeed, operator := .gt, value := .scalar (.int 500) }
    let moment (seconds : Nat) (h : (CivilTime.ofSeconds? seconds 0).isSome) : Moment :=
      ⟨(CivilTime.ofSeconds? seconds 0).get h, .utc⟩
    let earlier : Peer := .other { Context.lone.session with id := "earlier" }
    let later : Peer :=
      .other { Context.lone.session with id := "later", startedAt := moment 7200 rfl }
    let context : Context := { Context.lone with
      session := { Context.lone.session with startedAt := moment 3600 rfl }
      recent := [earlier, later] }
    (∃ session ∈ context.peers context.recent condition,
        session.isLater context.session = true) ∧
      travelSpeed (context.withLists [] [later]) condition = travelSpeed context condition ∧
      ∀ finding, travelSpeed context condition = .ok finding →
        finding.matched = condition.holds finding.actual := by
  intro condition moment earlier later context
  have hlater : ∃ session ∈ context.peers context.recent condition,
      session.isLater context.session = true := by
    decide +kernel
  obtain ⟨previous, -, -, -, hrecent, hfinding⟩ := travelSpeed_of_later hlater
  exact ⟨hlater, hrecent [later] (by decide +kernel),
    fun finding htravel => (hfinding finding htravel).2.1⟩

/-- A session that started an hour after the current one takes the place of the one that started an
hour before. -/
theorem travelSpeed_not_of_earlier :
    let condition : Condition :=
      { field := .known .travelSpeed, operator := .gt, value := .scalar (.int 500) }
    let moment (seconds : Nat) (h : (CivilTime.ofSeconds? seconds 0).isSome) : Moment :=
      ⟨(CivilTime.ofSeconds? seconds 0).get h, .utc⟩
    let earlier : Session := { Context.lone.session with id := "earlier" }
    let later : Session := { earlier with id := "later", startedAt := moment 7200 rfl }
    let context : Context := { Context.lone with
      session := { Context.lone.session with startedAt := moment 3600 rfl } }
    let related (recent : List Peer) :=
      (travelSpeed (context.withLists [] recent) condition).toOption.bind (·.related)
    later.isLater context.session = true ∧ related [.other earlier] = some ["earlier"] ∧
      related [.other earlier, .other later] = some ["later"] := by
  decide +kernel

end Observation

end PlaybackRules
