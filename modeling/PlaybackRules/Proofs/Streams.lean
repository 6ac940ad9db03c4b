import PlaybackRules.Proofs.Entries
import PlaybackRules.Proofs.FurtherPeer

/-!
# Streams at once

The streams of a user at once are the current session and the further ones among the active sessions
(`Context.IsFurther`): entries of the list that belong to the user, are not the current session
itself and, where the condition leaves out the device of the current session, run on another one.
The observation counts these and lists them in order (`Observation.concurrentStreams_eq`).  The
count does not rise as the device is left out, and rises by at most one as a session is added
(`Field.observe_concurrentStreams`).
-/

namespace PlaybackRules

/-! ## Further streams -/

/-- Two sessions give one device identifier that is not empty. -/
def Session.SharesDevice (session other : Session) : Prop :=
  ∃ id, id ≠ "" ∧ session.deviceId = some id ∧ other.deviceId = some id

/-- The condition has a parameter, true in a condition, that leaves out the current device. -/
def Condition.LeavesOutDevice (condition : Condition) : Prop :=
  ∃ value, condition.params.get? "exclude_same_device" = some value ∧ value.isTruthy = true

/-- The condition with the parameter that leaves out the current device set to a value. -/
def Condition.leaveOutDevice (condition : Condition) (value : Value) : Condition :=
  { condition with params := condition.params.set "exclude_same_device" value }

/-- An entry of a list is a stream besides that of the current session. -/
structure Context.IsFurther (context : Context) (condition : Condition) (entry : Peer) : Prop where
  ne_current : entry ≠ .current
  userId_eq : (entry.session context.session).userId = context.user.id
  apart : condition.LeavesOutDevice →
    ¬context.session.SharesDevice (entry.session context.session)

theorem Session.sameDevice_iff {session other : Session} :
    session.sameDevice other = true ↔ session.SharesDevice other := by
  unfold sameDevice SharesDevice
  rw [Option.any_eq_true]
  refine exists_congr fun id => ?_
  rw [Bool.and_eq_true, bne_iff_ne, beq_iff_eq]
  exact and_left_comm

theorem Condition.excludesSameDevice_iff {condition : Condition} :
    condition.excludesSameDevice = true ↔ condition.LeavesOutDevice := by
  unfold excludesSameDevice LeavesOutDevice
  rw [Option.any_eq_true]

instance (session other : Session) : Decidable (session.SharesDevice other) :=
  decidable_of_iff _ Session.sameDevice_iff

instance (condition : Condition) : Decidable condition.LeavesOutDevice :=
  decidable_of_iff _ Condition.excludesSameDevice_iff

theorem Condition.leavesOutDevice_leaveOutDevice {value : Value} (h : value.isTruthy = true)
    (condition : Condition) : (condition.leaveOutDevice value).LeavesOutDevice := by
  refine ⟨value, ?_, h⟩
  rw [leaveOutDevice, Entries.get?_set, if_pos rfl]

namespace Context

variable {context : Context} {condition : Condition}

theorem not_isFurther_current : ¬context.IsFurther condition .current :=
  fun h => h.ne_current rfl

theorem isFurther_other_iff {session : Session} :
    context.IsFurther condition (.other session) ↔
      session.userId = context.user.id ∧
        (condition.LeavesOutDevice → ¬context.session.SharesDevice session) :=
  ⟨fun h => ⟨h.userId_eq, h.apart⟩, fun h => ⟨nofun, h.1, h.2⟩⟩

instance : DecidablePred (context.IsFurther condition)
  | .current => .isFalse not_isFurther_current
  | .other _ => decidable_of_iff _ isFurther_other_iff.symm

variable (context condition) in
/-- The peers of a session are the entries that are further streams, in order. -/
theorem peers_eq_map (list : List Peer) :
    context.peers list condition =
      (list.filter (context.IsFurther condition)).map (·.session context.session) := by
  induction list with
  | nil => rfl
  | cons entry list ih =>
      unfold peers at ih ⊢
      cases entry with
      | current =>
          rw [List.filter_cons_of_neg (by simpa using not_isFurther_current), ← ih]
          rfl
      | other session =>
          have hother : (Peer.other session :: list).filterMap Peer.other? =
              session :: list.filterMap Peer.other? := rfl
          have hkept : (session.userId == context.user.id &&
              !(condition.excludesSameDevice && context.session.sameDevice session)) =
              decide (context.IsFurther condition (.other session)) := by
            rw [Bool.eq_iff_iff]
            simp [isFurther_other_iff, ← Condition.excludesSameDevice_iff,
              ← Session.sameDevice_iff]
          rw [hother, List.filter_cons, List.filter_cons, ih, hkept]
          split <;> rfl

theorem IsFurther.of_leaveOutDevice {value : Value} (hvalue : value.isTruthy = true)
    {entry : Peer} (h : context.IsFurther (condition.leaveOutDevice value) entry) :
    context.IsFurther condition entry where
  ne_current := h.ne_current
  userId_eq := h.userId_eq
  apart _ := h.apart (condition.leavesOutDevice_leaveOutDevice hvalue)

/-! ## The number of streams -/

/-- The number of streams at once: the current session and the further ones. -/
def streams (context : Context) (condition : Condition) : Nat :=
  1 + (context.active.filter (context.IsFurther condition)).length

variable (context condition)

theorem streams_leaveOutDevice_le {value : Value} (hvalue : value.isTruthy = true) :
    context.streams (condition.leaveOutDevice value) ≤ context.streams condition := by
  unfold streams
  have hsub : (context.active.filter (context.IsFurther (condition.leaveOutDevice value))).length ≤
      (context.active.filter (context.IsFurther condition)).length := by
    apply List.Sublist.length_le
    apply List.monotone_filter_right
    intro entry h
    simp only [decide_eq_true_eq] at h ⊢
    exact h.of_leaveOutDevice hvalue
  omega

theorem streams_append (entry : Peer) :
    (context.withLists (context.active ++ [entry]) context.recent).streams condition =
      context.streams condition + if context.IsFurther condition entry then 1 else 0 := by
  have hsame : ∀ other,
      (context.withLists (context.active ++ [entry]) context.recent).IsFurther condition other ↔
        context.IsFurther condition other :=
    fun _ => ⟨fun h => ⟨h.1, h.2, h.3⟩, fun h => ⟨h.1, h.2, h.3⟩⟩
  have hlist : (context.withLists (context.active ++ [entry]) context.recent).active =
      context.active ++ [entry] := rfl
  unfold streams
  simp only [hsame, hlist, List.filter_append, List.length_append]
  by_cases h : context.IsFurther condition entry
  · simp [h, Nat.add_assoc]
  · simp [h]

end Context

/-! ## The observation -/

theorem Observation.concurrentStreams_eq (context : Context) (condition : Condition) :
    concurrentStreams context condition =
      { condition.find (.int (context.streams condition)) with
        related := some ((context.active.filter (context.IsFurther condition)).map fun entry =>
          (entry.session context.session).id) } := by
  unfold concurrentStreams Context.streams
  rw [context.peers_eq_map condition]
  simp only [List.length_map, List.map_map, Nat.add_comm 1]
  rfl

theorem Field.finds_concurrentStreams_iff {window : Except Failure Binary64} {context : Context}
    {condition : Condition} {actual : Value} :
    concurrentStreams.Finds window context condition actual ↔
      actual = .int (context.streams condition) := by
  rw [finds_iff_of_observe rfl, Observation.concurrentStreams_eq]
  rfl

/-- The count is one more than the number of entries that are further streams, whose identifiers are
listed in order.  It does not rise as the current device is left out, and one more active session
raises it by one or not at all. -/
theorem Field.observe_concurrentStreams (window : Except Failure Binary64) (context : Context)
    (condition : Condition) :
    let further := context.active.filter (context.IsFurther condition)
    let count := 1 + further.length
    (∃ finding ids, concurrentStreams.observe window context condition = .ok finding ∧
      finding.actual = .int count ∧ finding.related = some ids ∧
      ids = further.map (fun entry => (entry.session context.session).id) ∧
      ids.length = count - 1) ∧
    (∀ value, value.isTruthy = true →
      ∃ fewer ≤ count, concurrentStreams.Finds window context (condition.leaveOutDevice value)
        (.int fewer)) ∧
    ∀ entry, concurrentStreams.Finds window
      (context.withLists (context.active ++ [entry]) context.recent) condition
      (.int (count + if context.IsFurther condition entry then 1 else 0 : Nat)) := by
  intro further count
  refine ⟨⟨_, _, rfl, ?_, ?_, rfl, ?_⟩, fun value hvalue => ?_, fun entry => ?_⟩
  · rw [Observation.concurrentStreams_eq]
    rfl
  · rw [Observation.concurrentStreams_eq]
  · simp [count]
  · have hfewer := context.streams_leaveOutDevice_le condition hvalue
    exact ⟨_, hfewer, finds_concurrentStreams_iff.2 rfl⟩
  · rw [finds_concurrentStreams_iff, Context.streams_append]
    rfl

/-- Beside the current session, twice in the list, a copy of it, a session of another user, two of
one object on an unnamed device, and one without a device. -/
theorem Field.observe_concurrentStreams_copy :
    let session : Session := { Context.lone.session with deviceId := some "tv" }
    let unnamed : Peer := .other { session with id := "unnamed", deviceId := some "" }
    let context : Context := { Context.lone with
      session
      active := [.current, .other session, .other { session with userId := "stranger" }, unnamed,
        .current, unnamed, .other { session with id := "bare", deviceId := none }] }
    let condition : Condition := { field := .known .concurrentStreams, operator := .gte }
    (Value.str "off").isTruthy = true ∧
      (context.active.filter (context.IsFurther condition)).length = 4 ∧
      ∃ fewer : Nat, fewer ≤ 5 ∧ Field.concurrentStreams.Finds (.error .noRule) context
        (condition.leaveOutDevice (.str "off")) (.int fewer) := by
  intro session unnamed context condition
  have htrue : (Value.str "off").isTruthy = true := by decide
  obtain ⟨-, hfewer, -⟩ := Field.observe_concurrentStreams (.error .noRule) context condition
  obtain ⟨fewer, hle, hfinds⟩ := hfewer (.str "off") htrue
  have hcount : (context.active.filter (context.IsFurther condition)).length = 4 := by
    decide +kernel
  rw [hcount] at hle
  exact ⟨htrue, hcount, fewer, hle, hfinds⟩

end PlaybackRules
