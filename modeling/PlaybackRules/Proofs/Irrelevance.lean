import Mathlib.Logic.Relation
import PlaybackRules.Proofs.Behaviour
import PlaybackRules.Proofs.RuleSet

/-!
# Sessions that have no part in an evaluation

In the lists of a context only the other sessions of its user count (`Context.regards`).  The
current session itself may be listed, but is left out of the peers, and where it is not, in the
windows of time, its names are there already.  So every observation comes down to what is left of
the lists without the rest (`Field.observe_withLists`), and an evaluation stays the same, in its
result and in all that happens on the way, when any of the rest is put in or taken out
(`Engine.evaluateRule_withLists`).
-/

namespace PlaybackRules

/-- Does a member of a list count?  Sessions of other users do not, nor does the current one. -/
def Context.regards (context : Context) : Peer → Bool
  | .current => false
  | .other session => session.userId == context.user.id

/-- The second list is the first with one more member somewhere, which does not count. -/
inductive Context.Inserted (context : Context) : List Peer → List Peer → Prop where
  | mk (before after : List Peer) {peer : Peer} (h : context.regards peer = false) :
      Inserted context (before ++ after) (before ++ peer :: after)

variable (context : Context)

/-! ## What counts in a list -/

theorem Context.Inserted.others_eq {list list' : List Peer} (h : context.Inserted list list') :
    context.others list' = context.others list := by
  obtain @⟨before, after, peer, h⟩ := h
  unfold Context.others
  rw [List.filterMap_append, List.filterMap_append, List.filter_append, List.filter_append]
  congr 1
  cases peer with
  | current => rfl
  | other session => exact List.filter_cons_of_neg (by simpa [Context.regards] using h)

/-- What counts stays the same however often something else is put in or taken out. -/
theorem Context.others_of_eqvGen {list list' : List Peer}
    (h : Relation.EqvGen context.Inserted list list') :
    context.others list' = context.others list := by
  induction h with
  | rel list list' h => exact h.others_eq
  | refl list => rfl
  | symm list list' _ ih => exact ih.symm
  | trans list list' list'' _ _ ih ih' => exact ih'.trans ih

theorem Context.others_cons (session : Session) (list : List Peer) :
    context.others (.other session :: list) =
      if session.userId == context.user.id then session :: context.others list
      else context.others list := List.filter_cons

namespace Observation

/-- Once the name of the current session is seen, those in a window are the names of what counts. -/
theorem foldl_note_since (name : Session → String) (cutoff : Int) :
    ∀ (list : List Peer) {seen : List String}, name context.session ∈ seen →
      ((context.since cutoff list).map name).foldl note seen =
        (((context.others list).filter fun session =>
          cutoff ≤ session.startedAt.instant).map name).foldl note seen
  | [], _, _ => rfl
  | .current :: list, seen, h => by
      have hlist := foldl_note_since name cutoff list h
      rw [Context.since_cons]
      split
      · rw [List.map_cons, List.foldl_cons, Peer.session, note_of_mem h]
        exact hlist
      · exact hlist
  | .other session :: list, seen, h => by
      rw [Context.since_cons, Context.others_cons, Peer.session]
      cases session.userId == context.user.id with
      | false => exact foldl_note_since name cutoff list h
      | true =>
          simp only [Bool.true_and, if_true, List.filter_cons]
          split
          · exact foldl_note_since name cutoff list (mem_note.2 (.inl h))
          · exact foldl_note_since name cutoff list h

end Observation

/-! ## Observations -/

section Lists

variable {active recent : List Peer}

theorem Observation.distinctInWindow_withLists
    (hrecent : context.others recent = context.others context.recent) (key : String)
    (name : Session → String) (window : Except Failure Binary64) (condition : Condition) :
    distinctInWindow key name window (context.withLists active recent) condition =
      distinctInWindow key name window context condition := by
  have hnames : ∀ cutoff,
      distinct ((context.session :: context.since cutoff recent).map name) =
        distinct ((context.session :: context.since cutoff context.recent).map name) := by
    intro cutoff
    have hseen : name context.session ∈ [name context.session] := List.mem_singleton_self _
    have hfold := foldl_note_since context name cutoff recent hseen
    rw [hrecent, ← foldl_note_since context name cutoff context.recent hseen] at hfold
    exact hfold
  rw [distinctInWindow_eq, distinctInWindow_eq]
  have hsince : ∀ cutoff list,
      (context.withLists active recent).since cutoff list = context.since cutoff list :=
    fun _ _ => rfl
  have hsession : (context.withLists active recent).session = context.session := rfl
  have hlist : (context.withLists active recent).recent = recent := rfl
  simp only [hsince, hsession, hlist, hnames]

/-- No observation depends on what does not count in the lists. -/
theorem Field.observe_withLists (hactive : context.others active = context.others context.active)
    (hrecent : context.others recent = context.others context.recent) (field : Field)
    (window : Except Failure Binary64) (condition : Condition) :
    field.observe window (context.withLists active recent) condition =
      field.observe window context condition := by
  let other := context.withLists active recent
  have hsession : other.session = context.session := rfl
  have hactivePeers : other.peers other.active condition =
      context.peers context.active condition := by
    rw [Context.peers_eq, Context.peers_eq, ← hactive]
    rfl
  have hrecentPeers : other.peers other.recent condition =
      context.peers context.recent condition := by
    rw [Context.peers_eq, Context.peers_eq, ← hrecent]
    rfl
  cases field with
  | concurrentStreams =>
      show Except.ok (Observation.concurrentStreams other condition) = _
      unfold Observation.concurrentStreams
      rw [hactivePeers]
      rfl
  | activeSessionDistance =>
      show Trigonometry.machine.activeSessionDistance other condition = _
      unfold Trigonometry.activeSessionDistance
      rw [hactivePeers, hsession]
      rfl
  | travelSpeed =>
      show Trigonometry.machine.travelSpeed other condition = _
      unfold Trigonometry.travelSpeed
      rw [hrecentPeers, hsession]
      rfl
  | uniqueIps => exact Observation.distinctInWindow_withLists context hrecent _ _ window condition
  | uniqueDevices =>
      exact Observation.distinctInWindow_withLists context hrecent _ _ window condition
  | _ => rfl

end Lists

/-! ## Rules -/

/-- Put other sessions of other users or the current session into the lists of a context, or take
such out.  Then every condition comes to the same, and so does every rule, with the same events on
the way and the same failure if there is one. -/
theorem Engine.evaluateRule_withLists {active recent : List Peer}
    (hactive : Relation.EqvGen context.Inserted context.active active)
    (hrecent : Relation.EqvGen context.Inserted context.recent recent) :
    let other := context.withLists active recent
    (∀ settings mode condition,
      Registry.builtIn.verdict settings mode other condition =
        Registry.builtIn.verdict settings mode context condition) ∧
    ∀ suspends config mode rule,
      ({ suspends } : Engine).evaluateRule config mode (other.withRule rule) =
        ({ suspends } : Engine).evaluateRule config mode (context.withRule rule) := by
  intro other
  have hactive := context.others_of_eqvGen hactive
  have hrecent := context.others_of_eqvGen hrecent
  refine ⟨fun settings mode condition => ?_, fun suspends config mode rule => ?_⟩
  · cases hfield : condition.field.field? with
    | none =>
        rw [Registry.verdict_unknown _ settings mode other hfield,
          Registry.verdict_unknown _ settings mode context hfield]
    | some field =>
        rw [Registry.verdict_builtIn settings mode other hfield,
          Registry.verdict_builtIn settings mode context hfield,
          Field.observe_withLists context hactive hrecent field]
  · refine Engine.evaluateRule_congr fun group _ condition _ => ?_
    refine Engine.start_builtIn_congr fun field _ => ⟨?_, rfl⟩
    exact Field.observe_withLists (context.withRule rule) hactive hrecent field _ condition

/-- The session of a stranger is taken out of one list and put into the other, and the current
session is put into both, while a session of the user stays. -/
theorem Engine.evaluateRule_withLists_stranger :
    let peer : Session := { id := "peer", userId := "user", startedAt := .first }
    let stranger : Session := { peer with id := "stranger", userId := "stranger" }
    let context : Context := { Context.lone with
      active := [.other peer, .other stranger], recent := [.other peer] }
    let active : List Peer := [.current, .other peer]
    let recent : List Peer := [.other stranger, .other peer, .current]
    let rule : Rule := { id := "rule", name := "Rule", conditions := some [
      [{ field := .known .concurrentStreams, operator := .gte, value := .scalar (.int 2) }],
      [{ field := .known .uniqueDevices, operator := .lt, value := .scalar (.int 2) }]] }
    (Relation.EqvGen context.Inserted context.active active ∧
      Relation.EqvGen context.Inserted context.recent recent) ∧
    ({} : Engine).evaluateRule (.ok {}) .sync ((context.withLists active recent).withRule rule) =
      ({} : Engine).evaluateRule (.ok {}) .sync (context.withRule rule) := by
  intro peer stranger context active recent rule
  have hactive : Relation.EqvGen context.Inserted context.active active :=
    .trans _ [.other peer] _ (.symm _ _ (.rel _ _ (.mk [.other peer] [] (by decide))))
      (.rel _ _ (.mk [] [.other peer] rfl))
  have hrecent : Relation.EqvGen context.Inserted context.recent recent :=
    .trans _ [.other stranger, .other peer] _ (.rel _ _ (.mk [] [.other peer] (by decide)))
      (.rel _ _ (.mk [.other stranger, .other peer] [] rfl))
  exact ⟨⟨hactive, hrecent⟩,
    (Engine.evaluateRule_withLists context hactive hrecent).2 false (.ok {}) .sync rule⟩

end PlaybackRules
