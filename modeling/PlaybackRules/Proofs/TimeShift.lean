import PlaybackRules.Proofs.Behaviour
import PlaybackRules.Proofs.Unreadable

/-!
# Moving all moments

Moments are looked at only through the time between them.  Let every moment of a context be moved by
one duration, and written at any offset (`Context.Shifted`).  Then every observation finds the same,
details aside (`Field.agree_observe_shifted`), so that conditions and rules come to the same
(`Engine.evaluateRule_shifted`).  The one proviso is that windows of time begin within the calendar,
before and after (`Condition.windowFits`).
-/

namespace PlaybackRules

/-! ## Moved moments -/

/-- The second moment is the first moved by a number of microseconds, at whatever offset. -/
def Moment.Shifted (shift : Int) (m m' : Moment) : Prop := m'.instant = m.instant + shift

instance (shift : Int) (m m' : Moment) : Decidable (m.Shifted shift m') :=
  inferInstanceAs (Decidable (m'.instant = m.instant + shift))

/-- The second session is the first with its start moved. -/
structure Session.Shifted (shift : Int) (session session' : Session) : Prop where
  startedAt : session.startedAt.Shifted shift session'.startedAt
  rest : session' = { session with startedAt := session'.startedAt }

/-- The second user is the first with all moments moved. -/
structure User.Shifted (shift : Int) (user user' : User) : Prop where
  createdAt : user.createdAt.Shifted shift user'.createdAt
  lastActivityAt : Option.Rel (Moment.Shifted shift) user.lastActivityAt user'.lastActivityAt
  rest : user' = { user with
    createdAt := user'.createdAt, lastActivityAt := user'.lastActivityAt }

/-- The members of two lists are both the current session, or the second has its start moved. -/
inductive Peer.Shifted (shift : Int) : Peer → Peer → Prop where
  | current : Shifted shift .current .current
  | other {session session' : Session} (h : session.Shifted shift session') :
      Shifted shift (.other session) (.other session')

/-- The second context is the first with all moments moved. -/
structure Context.Shifted (shift : Int) (context context' : Context) : Prop where
  session : context.session.Shifted shift context'.session
  user : context.user.Shifted shift context'.user
  active : List.Forall₂ (Peer.Shifted shift) context.active context'.active
  recent : List.Forall₂ (Peer.Shifted shift) context.recent context'.recent
  now : context.now.Shifted shift context'.now
  rest : context' = { context with
    session := context'.session, user := context'.user, active := context'.active
    recent := context'.recent, now := context'.now }

variable {shift : Int}

namespace Moment.Shifted

variable {m m' n n' : Moment}

theorem eq (hm : m.Shifted shift m') : m'.instant = m.instant + shift := hm

theorem since (hm : m.Shifted shift m') (hn : n.Shifted shift n') : m'.since n' = m.since n := by
  unfold Moment.Shifted at hm hn
  unfold Moment.since
  omega

theorem daysSince (hm : m.Shifted shift m') (hn : n.Shifted shift n') :
    m'.daysSince n' = m.daysSince n := by
  unfold Moment.daysSince
  rw [hm.since hn]

theorem instant_lt_iff (hm : m.Shifted shift m') (hn : n.Shifted shift n') :
    m'.instant < n'.instant ↔ m.instant < n.instant := by
  unfold Moment.Shifted at hm hn
  omega

end Moment.Shifted

/-! ## Moved sessions -/

namespace Session.Shifted

variable {session session' peer peer' : Session} {sessions sessions' : List Session}

/-- What does not look at the start of a session stays the same. -/
theorem congr {α : Type} {f : Session → α}
    (hf : ∀ session startedAt, f { session with startedAt } = f session)
    (h : session.Shifted shift session') : f session' = f session :=
  (congrArg f h.rest).trans (hf session session'.startedAt)

theorem userId (h : session.Shifted shift session') : session'.userId = session.userId := by
  rw [h.rest]

theorem sameDevice (h : session.Shifted shift session') (hpeer : peer.Shifted shift peer') :
    session'.sameDevice peer' = session.sameDevice peer := by
  rw [hpeer.rest, h.rest]
  rfl

theorem distance (t : Trigonometry) (h : session.Shifted shift session')
    (hpeer : peer.Shifted shift peer') : t.distance session' peer' = t.distance session peer := by
  rw [hpeer.rest, h.rest]
  rfl

theorem location (h : session.Shifted shift session') :
    Observation.location session' = Observation.location session := by
  rw [h.rest]
  rfl

theorem map_eq {α : Type} {f : Session → α}
    (hf : ∀ session startedAt, f { session with startedAt } = f session)
    (h : List.Forall₂ (Session.Shifted shift) sessions sessions') :
    sessions'.map f = sessions.map f := by
  induction h with
  | nil => rfl
  | cons hhead _ ih => rw [List.map_cons, List.map_cons, ih, hhead.congr hf]

theorem distances (t : Trigonometry) (h : session.Shifted shift session')
    (hpeers : List.Forall₂ (Session.Shifted shift) sessions sessions') :
    t.distances session' sessions' = t.distances session sessions := by
  induction hpeers with
  | nil => rfl
  | cons hhead _ ih =>
      have hid := hhead.congr (f := Session.id) fun _ _ => rfl
      rw [t.distances_cons, t.distances_cons, ih, h.distance t hhead, hid]

theorem latest (h : List.Forall₂ (Session.Shifted shift) sessions sessions') :
    Option.Rel (Session.Shifted shift) (Observation.latest sessions)
      (Observation.latest sessions') := by
  cases h with
  | nil => exact .none
  | cons hhead htail =>
      refine .some (List.rel_foldl ?_ hhead htail)
      intro best best' hbest next next' hnext
      simp only [hbest.startedAt.instant_lt_iff hnext.startedAt]
      split
      · exact hnext
      · exact hbest

end Session.Shifted

/-! ## Lists of a context -/

namespace Context.Shifted

variable {context context' : Context} {list list' : List Peer}

theorem userId (h : context.Shifted shift context') : context'.user.id = context.user.id := by
  rw [h.user.rest]

theorem peers (h : context.Shifted shift context')
    (hlist : List.Forall₂ (Peer.Shifted shift) list list') (condition : Condition) :
    List.Forall₂ (Session.Shifted shift) (context.peers list condition)
      (context'.peers list' condition) := by
  unfold Context.peers
  refine List.rel_filter ?_ (List.rel_filterMap ?_ hlist)
  · intro session session' hsession
    simp only [hsession.userId, h.userId, h.session.sameDevice hsession]
  · intro peer peer' hpeer
    cases hpeer with
    | current => exact .none
    | other hsession => exact .some hsession

theorem since (h : context.Shifted shift context')
    (hlist : List.Forall₂ (Peer.Shifted shift) list list') (cutoff : Int) :
    List.Forall₂ (Session.Shifted shift) (context.since cutoff list)
      (context'.since (cutoff + shift) list') := by
  unfold Context.since
  refine List.rel_filter ?_ (List.rel_map ?_ hlist)
  · intro session session' hsession
    have hstart : cutoff + shift ≤ session'.startedAt.instant ↔
        cutoff ≤ session.startedAt.instant := by
      rw [hsession.startedAt.eq, Int.add_le_add_iff_right]
    simp only [hsession.userId, h.userId, hstart]
  · intro peer peer' hpeer
    cases hpeer with
    | current => exact h.session
    | other hsession => exact hsession

end Context.Shifted

/-! ## Windows -/

/-- Does the window of a condition begin within the calendar, if there is one that can be read? -/
def Condition.windowFits (settings : Settings) (start : Moment) (condition : Condition) : Bool :=
  match condition.field.field? with
  | some .uniqueIps | some .uniqueDevices =>
    match Observation.windowHours (.ok settings.defaultWindow) condition >>= Window.micros with
    | .ok length => CivilTime.inCalendar (start.civil.micros - length)
    | .error _ => true
  | _ => true

theorem Condition.inCalendar_of_windowFits {settings : Settings} {start : Moment}
    {condition : Condition} (hfits : condition.windowFits settings start = true)
    (hfield : condition.field.field? = some .uniqueIps ∨
      condition.field.field? = some .uniqueDevices) {length : Int}
    (h : Observation.windowHours (.ok settings.defaultWindow) condition >>= Window.micros =
      .ok length) : CivilTime.inCalendar (start.civil.micros - length) = true := by
  unfold Condition.windowFits at hfits
  rcases hfield with hfield | hfield
  · simpa only [hfield, h] using hfits
  · simpa only [hfield, h] using hfits

theorem Window.cutoff_shifted {start start' : Moment} (h : start.Shifted shift start')
    {hours : Value}
    (hfits : ∀ {length}, micros hours = .ok length →
      CivilTime.inCalendar (start.civil.micros - length) = true)
    (hfits' : ∀ {length}, micros hours = .ok length →
      CivilTime.inCalendar (start'.civil.micros - length) = true) :
    Alike (fun cutoff cutoff' => cutoff' = cutoff + shift) (cutoff start hours)
      (cutoff start' hours) := by
  unfold cutoff
  cases hlength : micros hours with
  | error failure => exact .error failure failure
  | ok length =>
      show Alike _ (if _ then _ else _) (if _ then _ else _)
      rw [if_pos (hfits hlength), if_pos (hfits' hlength), h.eq]
      exact .ok (sub_add_eq_add_sub ..).symm

/-! ## Observations -/

section Observe

variable {context context' : Context} (h : context.Shifted shift context') (condition : Condition)
include h

namespace Observation

theorem concurrentStreams_shifted :
    concurrentStreams context' condition = concurrentStreams context condition := by
  have hpeers := h.peers h.active condition
  unfold concurrentStreams
  simp only [Session.Shifted.map_eq (f := Session.id) (fun _ _ => rfl) hpeers, hpeers.length_eq]

theorem activeSessionDistance_shifted (t : Trigonometry) :
    t.activeSessionDistance context' condition = t.activeSessionDistance context condition := by
  have hpeers := h.peers h.active condition
  have hempty : (context'.peers context'.active condition).isEmpty =
      (context.peers context.active condition).isEmpty := by
    rw [Bool.eq_iff_iff, List.isEmpty_iff_length_eq_zero, List.isEmpty_iff_length_eq_zero,
      hpeers.length_eq]
  unfold Trigonometry.activeSessionDistance
  simp only [hempty, h.session.distances t hpeers,
    Session.Shifted.map_eq (f := Session.id) (fun _ _ => rfl) hpeers]

theorem travelSpeed_shifted (t : Trigonometry) :
    t.travelSpeed context' condition = t.travelSpeed context condition := by
  have hlatest := Session.Shifted.latest (h.peers h.recent condition)
  unfold Trigonometry.travelSpeed
  generalize latest (context.peers context.recent condition) = previous?,
    latest (context'.peers context'.recent condition) = previous?' at hlatest ⊢
  cases hlatest with
  | none => rfl
  | @some previous previous' hprevious =>
      have hid : previous'.id = previous.id := by rw [hprevious.rest]
      simp only [Trigonometry.travelFrom, hid, h.session.distance t hprevious, hprevious.location,
        h.session.location, h.session.startedAt.since hprevious.startedAt]

theorem inactiveDays_shifted {S : List String → List String → Prop} :
    (inactiveDays context condition).AgreeUpTo S (inactiveDays context' condition) := by
  have hsince : (context.user.lastActivityAt.getD context.user.createdAt).Shifted shift
      (context'.user.lastActivityAt.getD context'.user.createdAt) := by
    have hlast := h.user.lastActivityAt
    generalize context.user.lastActivityAt = last,
      context'.user.lastActivityAt = last' at hlast ⊢
    cases hlast with
    | none => exact h.user.createdAt
    | some hlast => exact hlast
  have hdays := h.now.daysSince hsince
  refine ⟨?_, ?_, .none⟩
  · exact congrArg (fun days => condition.holds (.int days)) hdays
  · exact congrArg Value.int hdays

theorem accountAge_shifted : accountAge context' condition = accountAge context condition :=
  congrArg (fun days => condition.find (.int days)) (h.now.daysSince h.user.createdAt)

theorem distinctInWindow_shifted {name : Session → String}
    (hname : ∀ session startedAt, name { session with startedAt } = name session)
    {window : Except Failure Binary64} {S : List String → List String → Prop}
    (hfits : ∀ {length}, windowHours window condition >>= Window.micros = .ok length →
      CivilTime.inCalendar (context.session.startedAt.civil.micros - length) = true)
    (hfits' : ∀ {length}, windowHours window condition >>= Window.micros = .ok length →
      CivilTime.inCalendar (context'.session.startedAt.civil.micros - length) = true)
    (key : String) :
    Alike (Finding.AgreeUpTo S) (distinctInWindow key name window context condition)
      (distinctInWindow key name window context' condition) := by
  refine alike_distinctInWindow (fun hours hhours => ?_) key
  rw [hhours] at hfits hfits'
  have hcutoff := Window.cutoff_shifted h.session.startedAt hfits hfits'
  refine hcutoff.mono fun cutoff cutoff' hcutoff => ?_
  rw [hcutoff, Session.Shifted.map_eq hname (.cons h.session (h.since h.recent cutoff))]

end Observation

/-- Every observation finds the same, details aside, if the window begins within the calendar. -/
theorem Field.agree_observe_shifted {S : List String → List String → Prop}
    (hS : ∀ ids, S ids ids) (settings : Settings)
    (hfits : condition.windowFits settings context.session.startedAt = true)
    (hfits' : condition.windowFits settings context'.session.startedAt = true) {field : Field}
    (hfield : condition.field.field? = some field) :
    Alike (Finding.AgreeUpTo S) (field.observe (.ok settings.defaultWindow) context condition)
      (field.observe (.ok settings.defaultWindow) context' condition) := by
  cases field with
  | concurrentStreams =>
      have hfound := Observation.concurrentStreams_shifted h condition
      exact Finding.alike_of_eq hS (congrArg Except.ok hfound)
  | activeSessionDistance =>
      exact Finding.alike_of_eq hS (Observation.activeSessionDistance_shifted h condition .machine)
  | travelSpeed =>
      exact Finding.alike_of_eq hS (Observation.travelSpeed_shifted h condition .machine)
  | uniqueIps =>
      exact Observation.distinctInWindow_shifted h condition (fun _ _ => rfl)
        (Condition.inCalendar_of_windowFits hfits (.inl hfield))
        (Condition.inCalendar_of_windowFits hfits' (.inl hfield)) _
  | uniqueDevices =>
      exact Observation.distinctInWindow_shifted h condition (fun _ _ => rfl)
        (Condition.inCalendar_of_windowFits hfits (.inr hfield))
        (Condition.inCalendar_of_windowFits hfits' (.inr hfield)) _
  | inactiveDays => exact .ok (Observation.inactiveDays_shifted h condition)
  | accountAge =>
      have hfound := Observation.accountAge_shifted h condition
      exact Finding.alike_of_eq hS (congrArg Except.ok hfound)
  | _ =>
      -- The other fields look at no moment, and at none of the lists.
      refine Finding.alike_of_eq hS ?_
      rw [h.rest, h.session.rest, h.user.rest]
      rfl

theorem Registry.alike_verdict_shifted (settings : Settings) (mode : Mode)
    (hfits : condition.windowFits settings context.session.startedAt = true)
    (hfits' : condition.windowFits settings context'.session.startedAt = true) :
    Alike (ConditionEvidence.AgreeUpTo Eq condition)
      (Registry.builtIn.verdict settings mode context condition)
      (Registry.builtIn.verdict settings mode context' condition) :=
  Registry.alike_verdict_builtIn settings mode (fun _ _ hids => by rw [hids]) fun _ hfield =>
    Field.agree_observe_shifted h condition (fun _ => rfl) settings hfits hfits' hfield

end Observe

/-! ## Rules -/

variable {context context' : Context}

theorem Context.Shifted.withRule (h : context.Shifted shift context') (rule : Rule) :
    (context.withRule rule).Shifted shift (context'.withRule rule) where
  session := h.session
  user := h.user
  active := h.active
  recent := h.recent
  now := h.now
  rest := congrArg (·.withRule rule) h.rest

/-- Move all moments of a context by one duration, and write them at any offsets, such that windows
of time begin within the calendar before and after.  Then every condition comes to the same or fails
closed as before, and so does every rule, details aside; without settings no rule comes to a
result. -/
theorem Engine.evaluateRule_shifted (h : context.Shifted shift context') :
    let fits (settings : Settings) (condition : Condition) :=
      condition.windowFits settings context.session.startedAt = true ∧
        condition.windowFits settings context'.session.startedAt = true
    (∀ settings mode condition, fits settings condition →
      Alike (ConditionEvidence.AgreeUpTo Eq condition)
        (Registry.builtIn.verdict settings mode context condition)
        (Registry.builtIn.verdict settings mode context' condition)) ∧
    ∀ suspends mode (rule : Rule),
      let run config (context : Context) :=
        (({ suspends } : Engine).evaluateRule config mode (context.withRule rule)).outcome
      (∀ settings,
        (∀ group ∈ rule.conditions.getD [], ∀ condition ∈ group, fits settings condition) →
          ∃ result result', run (.ok settings) context = .ok result ∧
            run (.ok settings) context' = .ok result' ∧
            result.Agree (ConditionEvidence.AgreeUpTo Eq) rule result') ∧
      ∀ faults, run (.error faults) context = .error (.settings faults) ∧
        run (.error faults) context' = .error (.settings faults) := by
  intro fits
  refine ⟨fun settings mode condition hfits => ?_, fun suspends mode rule =>
    ⟨fun settings hfits => ?_, fun faults => ?_⟩⟩
  · exact Registry.alike_verdict_shifted h condition settings mode hfits.1 hfits.2
  · refine Engine.agree_builtIn settings mode suspends rule fun group hgroup condition hmem => ?_
    obtain ⟨hfits, hfits'⟩ := hfits group hgroup condition hmem
    exact Registry.alike_verdict_shifted (h.withRule rule) condition settings mode hfits hfits'
  · exact ⟨Engine.outcome_evaluateRule_unreadable _ mode context faults rule,
      Engine.outcome_evaluateRule_unreadable _ mode context' faults rule⟩

/-- All moments are moved by one day, and those of two sessions written at other offsets. -/
theorem Engine.evaluateRule_shifted_day :
    let start : Moment := ⟨(CivilTime.ofSeconds? 172800 0).get rfl, .utc⟩
    let start' : Moment := ⟨(CivilTime.ofSeconds? 266400 0).get rfl, ⟨120, by decide⟩⟩
    let peer : Session := { id := "peer", userId := "user", startedAt := .first }
    let peer' : Session := { peer with
      startedAt := ⟨(CivilTime.ofSeconds? 82800 0).get rfl, ⟨-60, by decide⟩⟩ }
    let created' : Moment := ⟨(CivilTime.ofSeconds? 86400 0).get rfl, .utc⟩
    let context : Context := { Context.lone with
      session := { Context.lone.session with startedAt := start }
      recent := [.current, .other peer], now := start }
    let context' : Context := { context with
      session := { context.session with startedAt := start' }
      user := { context.user with createdAt := created' }
      recent := [.current, .other peer'], now := start' }
    let rule : Rule := { id := "rule", name := "Rule", conditions := some [
      [{ field := .known .uniqueDevices, operator := .gte, value := .scalar (.int 1) }],
      [{ field := .known .travelSpeed, operator := .gte, value := .scalar (.int 0) },
        { field := .known .inactiveDays, operator := .gte, value := .scalar (.int 2) }]] }
    let run (context : Context) :=
      (({} : Engine).evaluateRule (.ok {}) .sync (context.withRule rule)).outcome
    (context.Shifted 86400000000 context' ∧
      ∀ group ∈ rule.conditions.getD [], ∀ condition ∈ group,
        condition.windowFits {} context.session.startedAt = true ∧
          condition.windowFits {} context'.session.startedAt = true) ∧
    ∃ result result', run context = .ok result ∧ run context' = .ok result' ∧
      result.Agree (ConditionEvidence.AgreeUpTo Eq) rule result' := by
  intro start start' peer peer' created' context context' rule run
  have hpeer : peer.Shifted 86400000000 peer' := ⟨by decide, rfl⟩
  have hshifted : context.Shifted 86400000000 context' := {
    session := ⟨by decide, rfl⟩
    user := ⟨by decide, .none, rfl⟩
    active := .nil
    recent := .cons .current (.cons (.other hpeer) .nil)
    now := by decide
    rest := rfl }
  have hfits : ∀ group ∈ rule.conditions.getD [], ∀ condition ∈ group,
      condition.windowFits {} context.session.startedAt = true ∧
        condition.windowFits {} context'.session.startedAt = true := by decide +kernel
  exact ⟨⟨hshifted, hfits⟩,
    ((Engine.evaluateRule_shifted hshifted).2 false .sync rule).1 {} hfits⟩

end PlaybackRules
