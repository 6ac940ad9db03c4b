import PlaybackRules.Proofs.Behaviour
import PlaybackRules.Proofs.Unreadable

/-!
# The order of sessions

The lists of a context may come in any order.  Observations of several sessions then find the same,
with the related sessions in another order, or fail in every order
(`Field.agree_observe_reordered`); the one exception is the speed of travel, which takes the session
that started last, so that no two different sessions may have started at once
(`Context.StartsApart`).  So conditions and rules come to the same up to the order of related
sessions (`Engine.evaluateRule_reordered`).
-/

namespace PlaybackRules

/-- No two different recent sessions of the user, the current one aside, started at once. -/
def Context.StartsApart (context : Context) : Prop :=
  ∀ a ∈ context.others context.recent, ∀ b ∈ context.others context.recent,
    a.startedAt.instant = b.startedAt.instant → a = b

instance (context : Context) : Decidable context.StartsApart :=
  inferInstanceAs (Decidable (∀ a ∈ context.others context.recent,
    ∀ b ∈ context.others context.recent, a.startedAt.instant = b.startedAt.instant → a = b))

variable (context : Context) (condition : Condition) {active recent : List Peer}

/-! ## Lists in another order -/

theorem Context.peers_perm {list list' : List Peer} (h : list'.Perm list) :
    (context.peers list condition).Perm (context.peers list' condition) :=
  ((h.filterMap Peer.other?).filter _).symm

theorem Context.since_perm {list list' : List Peer} (cutoff : Int) (h : list'.Perm list) :
    (context.since cutoff list).Perm (context.since cutoff list') :=
  ((h.map _).filter _).symm

theorem Context.StartsApart.peers {context : Context} (h : context.StartsApart)
    (condition : Condition) :
    ∀ a ∈ context.peers context.recent condition, ∀ b ∈ context.peers context.recent condition,
      a.startedAt.instant = b.startedAt.instant → a = b := by
  rw [Context.peers_eq]
  intro a ha b hb
  exact h a (List.mem_of_mem_filter ha) b (List.mem_of_mem_filter hb)

/-! ## Observations -/

namespace Observation

theorem concurrentStreams_reordered (hactive : active.Perm context.active) :
    (concurrentStreams context condition).AgreeUpTo List.Perm
      (concurrentStreams (context.withLists active recent) condition) := by
  have hpeers := context.peers_perm condition hactive
  have hcount : (context.peers active condition).length =
      (context.peers context.active condition).length := hpeers.length_eq.symm
  refine ⟨?_, ?_, .some (hpeers.map Session.id)⟩
  · show condition.holds (.int ((context.peers active condition).length + 1 : Nat)) = _
    rw [hcount]
    rfl
  · show Value.int ((context.peers active condition).length + 1 : Nat) = _
    rw [hcount]
    rfl

theorem activeSessionDistance_reordered (t : Trigonometry) (hactive : active.Perm context.active) :
    Alike (Finding.AgreeUpTo List.Perm) (t.activeSessionDistance context condition)
      (t.activeSessionDistance (context.withLists active recent) condition) := by
  have hpeers := context.peers_perm condition hactive
  have hother : (context.withLists active recent).peers (context.withLists active recent).active
      condition = context.peers active condition := rfl
  have hsession : (context.withLists active recent).session = context.session := rfl
  unfold Trigonometry.activeSessionDistance
  rw [hother, hsession]
  generalize context.peers context.active condition = peers,
    context.peers active condition = peers' at hpeers ⊢
  simp only [hpeers.isEmpty_eq]
  cases peers'.isEmpty with
  | true => exact Finding.alike_of_eq List.Perm.refl rfl
  | false =>
      refine (Trigonometry.alike_distances hpeers).bind fun found found' hfound => ?_
      have hlargest := largest_perm hfound
      refine .ok ⟨?_, ?_, .some (hpeers.map Session.id)⟩
      · exact congrArg (fun largest => condition.holds (.float largest)) hlargest.symm
      · exact congrArg (fun largest => Value.float largest.roundHundredths) hlargest.symm

theorem travelSpeed_reordered (t : Trigonometry) (hrecent : recent.Perm context.recent)
    (hapart : context.StartsApart) :
    t.travelSpeed (context.withLists active recent) condition =
      t.travelSpeed context condition := by
  have hlatest : latest (context.peers recent condition) =
      latest (context.peers context.recent condition) :=
    latest_perm (context.peers_perm condition hrecent) (hapart.peers condition)
  have hother : (context.withLists active recent).peers (context.withLists active recent).recent
      condition = context.peers recent condition := rfl
  unfold Trigonometry.travelSpeed
  rw [hother, hlatest]
  rfl

theorem distinctInWindow_reordered (hrecent : recent.Perm context.recent) (key : String)
    (name : Session → String) (window : Except Failure Binary64) :
    Alike (Finding.AgreeUpTo List.Perm) (distinctInWindow key name window context condition)
      (distinctInWindow key name window (context.withLists active recent) condition) := by
  refine alike_distinctInWindow (fun hours _ => ?_) key
  refine .refl (fun cutoff => ?_) (Window.cutoff context.session.startedAt hours)
  exact ((context.since_perm cutoff hrecent).cons context.session).map name

end Observation

theorem Field.agree_observe_reordered (hactive : active.Perm context.active)
    (hrecent : recent.Perm context.recent) (hapart : context.StartsApart) (field : Field)
    (window : Except Failure Binary64) :
    Alike (Finding.AgreeUpTo List.Perm) (field.observe window context condition)
      (field.observe window (context.withLists active recent) condition) := by
  cases field with
  | concurrentStreams =>
      exact .ok (Observation.concurrentStreams_reordered context condition hactive)
  | activeSessionDistance =>
      exact Observation.activeSessionDistance_reordered context condition .machine hactive
  | travelSpeed =>
      exact Finding.alike_of_eq List.Perm.refl
        (Observation.travelSpeed_reordered context condition .machine hrecent hapart)
  | uniqueIps => exact Observation.distinctInWindow_reordered context condition hrecent _ _ window
  | uniqueDevices =>
      exact Observation.distinctInWindow_reordered context condition hrecent _ _ window
  | _ => exact Finding.alike_of_eq List.Perm.refl rfl

theorem Registry.alike_verdict_reordered (hactive : active.Perm context.active)
    (hrecent : recent.Perm context.recent) (hapart : context.StartsApart) (settings : Settings)
    (mode : Mode) :
    Alike (ConditionEvidence.AgreeUpTo List.Perm condition)
      (Registry.builtIn.verdict settings mode context condition)
      (Registry.builtIn.verdict settings mode (context.withLists active recent) condition) :=
  Registry.alike_verdict_builtIn settings mode (fun _ _ h => h.isEmpty_eq.symm) fun field _ =>
    Field.agree_observe_reordered context condition hactive hrecent hapart field _

/-! ## Rules -/

/-- Take the lists of a context in another order, where no two different recent sessions of the user
started at once.  Then every condition comes to the same or fails closed as before, and so does
every rule, up to the order of related sessions; without settings no rule comes to a result. -/
theorem Engine.evaluateRule_reordered (hactive : active.Perm context.active)
    (hrecent : recent.Perm context.recent) (hapart : context.StartsApart) :
    let other := context.withLists active recent
    (∀ settings mode condition, Alike (ConditionEvidence.AgreeUpTo List.Perm condition)
      (Registry.builtIn.verdict settings mode context condition)
      (Registry.builtIn.verdict settings mode other condition)) ∧
    ∀ suspends mode (rule : Rule),
      let run config (context : Context) :=
        (({ suspends } : Engine).evaluateRule config mode (context.withRule rule)).outcome
      (∀ settings, ∃ result result', run (.ok settings) context = .ok result ∧
        run (.ok settings) other = .ok result' ∧
        result.Agree (ConditionEvidence.AgreeUpTo List.Perm) rule result') ∧
      ∀ faults, run (.error faults) context = .error (.settings faults) ∧
        run (.error faults) other = .error (.settings faults) := by
  intro other
  refine ⟨fun settings mode condition => ?_, fun suspends mode rule => ⟨fun settings => ?_,
    fun faults => ?_⟩⟩
  · exact Registry.alike_verdict_reordered context condition hactive hrecent hapart settings mode
  · exact Engine.agree_builtIn settings mode suspends rule fun _ _ condition _ =>
      Registry.alike_verdict_reordered (context.withRule rule) condition hactive hrecent hapart
        settings mode
  · exact ⟨Engine.outcome_evaluateRule_unreadable _ mode context faults rule,
      Engine.outcome_evaluateRule_unreadable _ mode other faults rule⟩

/-- Two other sessions of the user change places in both lists, in one of them around the current
session. -/
theorem Engine.evaluateRule_reordered_pair :
    let early : Session := { id := "early", userId := "user", startedAt := .first }
    let late : Session := { early with
      id := "late", startedAt := ⟨(CivilTime.ofSeconds? 3600 0).get rfl, .utc⟩ }
    let context : Context := { Context.lone with
      active := [.other early, .other late], recent := [.other early, .current, .other late] }
    let active : List Peer := [.other late, .other early]
    let recent : List Peer := [.other late, .current, .other early]
    let rule : Rule := { id := "rule", name := "Rule", conditions := some [
      [{ field := .known .concurrentStreams, operator := .gte, value := .scalar (.int 3) }],
      [{ field := .known .travelSpeed, operator := .gte, value := .scalar (.int 0) }]] }
    let run (context : Context) :=
      (({} : Engine).evaluateRule (.ok {}) .async (context.withRule rule)).outcome
    (active.Perm context.active ∧ recent.Perm context.recent ∧ context.StartsApart) ∧
    ∃ result result', run context = .ok result ∧
      run (context.withLists active recent) = .ok result' ∧
      result.Agree (ConditionEvidence.AgreeUpTo List.Perm) rule result' := by
  intro early late context active recent rule run
  have hactive : active.Perm context.active := .swap ..
  have hrecent : recent.Perm context.recent := List.reverse_perm context.recent
  have hapart : context.StartsApart := by decide
  exact ⟨⟨hactive, hrecent, hapart⟩,
    ((Engine.evaluateRule_reordered context hactive hrecent hapart).2 false .async rule).1 {}⟩

end PlaybackRules
