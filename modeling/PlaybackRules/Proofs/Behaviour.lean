import Mathlib.Data.ENat.Lattice
import Mathlib.Data.Int.ConditionallyCompleteOrder
import Mathlib.Data.List.MinMax
import PlaybackRules.Observation.Behaviour
import PlaybackRules.Proofs.Findings

/-!
# Observations of several sessions

What the observations of behaviour take from a list of sessions: the distinct names in it, those in
a window of time, the distances to its members and the largest of them, and the session that started
last.  The names are a set (`Observation.mem_distinct`, `Observation.nodup_distinct`), the distances
fail as soon as one of them does (`Trigonometry.alike_distances`), and the largest distance is a
maximum of sizes (`Observation.foldl_max`); so none of these depends on the order of the list, and
neither does the session that started last if no two different ones started at once
(`Observation.latest_perm`).
-/

namespace PlaybackRules

/-! ## Distinct names -/

namespace Observation

/-- Adds a name to those seen, unless it is there. -/
def note (seen : List String) (name : String) : List String :=
  if seen.contains name then seen else seen ++ [name]

theorem distinct_eq (names : List String) : distinct names = names.foldl note [] := rfl

theorem note_of_mem {seen : List String} {name : String} (h : name ∈ seen) :
    note seen name = seen := if_pos (List.contains_iff_mem.2 h)

theorem note_of_not_mem {seen : List String} {name : String} (h : name ∉ seen) :
    note seen name = seen ++ [name] := if_neg (mt List.contains_iff_mem.1 h)

theorem mem_note {seen : List String} {name other : String} :
    other ∈ note seen name ↔ other ∈ seen ∨ other = name := by
  by_cases h : name ∈ seen
  · rw [note_of_mem h]
    exact ⟨Or.inl, fun hor => hor.elim id fun heq => heq ▸ h⟩
  · rw [note_of_not_mem h, List.mem_append, List.mem_singleton]

theorem nodup_note {seen : List String} (name : String) (h : seen.Nodup) :
    (note seen name).Nodup := by
  by_cases hmem : name ∈ seen
  · rwa [note_of_mem hmem]
  · rw [note_of_not_mem hmem, ← List.concat_eq_append]
    exact h.concat hmem

theorem mem_foldl_note {name : String} : ∀ {names seen : List String},
    name ∈ names.foldl note seen ↔ name ∈ seen ∨ name ∈ names
  | [], seen => by simp
  | other :: names, seen => by
      rw [List.foldl_cons, mem_foldl_note, mem_note, List.mem_cons, or_assoc]

theorem nodup_foldl_note : ∀ (names : List String) {seen : List String}, seen.Nodup →
    (names.foldl note seen).Nodup
  | [], _, h => h
  | name :: names, _, h => nodup_foldl_note names (nodup_note name h)

theorem mem_distinct {names : List String} {name : String} :
    name ∈ distinct names ↔ name ∈ names := by
  rw [distinct_eq, mem_foldl_note, List.mem_nil_iff, false_or]

theorem nodup_distinct (names : List String) : (distinct names).Nodup :=
  nodup_foldl_note names List.nodup_nil

/-- The distinct names of a list are the same in any order. -/
theorem distinct_perm {names names' : List String} (h : names.Perm names') :
    (distinct names).Perm (distinct names') := by
  have hiff := List.perm_ext_iff_of_nodup (nodup_distinct names) (nodup_distinct names')
  refine hiff.2 fun name => ?_
  rw [mem_distinct, mem_distinct, h.mem_iff]

end Observation

/-! ## Lists of a context -/

section Lists

variable (context : Context)

/-- The context with other lists of active and recent sessions. -/
def Context.withLists (active recent : List Peer) : Context := { context with active, recent }

/-- The sessions of the user in a list, except the current one. -/
def Context.others (list : List Peer) : List Session :=
  (list.filterMap Peer.other?).filter fun session => session.userId == context.user.id

theorem Context.peers_eq (list : List Peer) (condition : Condition) :
    context.peers list condition = (context.others list).filter fun session =>
      !(condition.excludesSameDevice && context.session.sameDevice session) := by
  unfold Context.peers Context.others
  rw [List.filter_filter]
  simp only [Bool.and_comm]

/-- The sessions of the user in a list that started at an instant or after. -/
def Context.since (cutoff : Int) (list : List Peer) : List Session :=
  (list.map (·.session context.session)).filter fun session =>
    session.userId == context.user.id && cutoff ≤ session.startedAt.instant

theorem Context.since_cons (cutoff : Int) (peer : Peer) (list : List Peer) :
    context.since cutoff (peer :: list) =
      if (peer.session context.session).userId == context.user.id &&
          decide (cutoff ≤ (peer.session context.session).startedAt.instant) then
        peer.session context.session :: context.since cutoff list
      else context.since cutoff list := List.filter_cons

/-- The names in a window are distinct ones of the current session and of those in the window. -/
theorem Observation.distinctInWindow_eq (key : String) (name : Session → String)
    (window : Except Failure Binary64) (condition : Condition) :
    distinctInWindow key name window context condition = (do
      let hours ← windowHours window condition
      let cutoff ← Window.cutoff context.session.startedAt hours
      let names := distinct ((context.session :: context.since cutoff context.recent).map name)
      return { condition.find (.int names.length) with
        details := some [(key, .ofList .str names), ("window_hours", hours)] }) := by
  unfold distinctInWindow sessionsWithin
  simp only [bind_assoc]
  rfl

/-- Two contexts count as many names in their windows if they see the same ones in some order, or
if neither window has a beginning. -/
theorem Observation.alike_distinctInWindow {context context' : Context} {condition : Condition}
    {name : Session → String} {window : Except Failure Binary64}
    {S : List String → List String → Prop}
    (h : ∀ hours, windowHours window condition = .ok hours →
      Alike (fun cutoff cutoff' =>
          ((context.session :: context.since cutoff context.recent).map name).Perm
            ((context'.session :: context'.since cutoff' context'.recent).map name))
        (Window.cutoff context.session.startedAt hours)
        (Window.cutoff context'.session.startedAt hours)) (key : String) :
    Alike (Finding.AgreeUpTo S) (distinctInWindow key name window context condition)
      (distinctInWindow key name window context' condition) := by
  rw [distinctInWindow_eq, distinctInWindow_eq]
  cases hhours : windowHours window condition with
  | error failure => exact .error failure failure
  | ok hours =>
      refine (h hours hhours).bind fun cutoff cutoff' hnames => ?_
      have hcount := (distinct_perm hnames).length_eq
      refine .ok ⟨?_, ?_, .none⟩
      · exact congrArg (fun count : Nat => condition.holds (.int count)) hcount.symm
      · exact congrArg (fun count : Nat => Value.int count) hcount.symm

end Lists

/-! ## Distances -/

namespace Trigonometry

variable {t : Trigonometry} {session : Session}

/-- The distance to another session under that session's name, where there is one. -/
def measured (t : Trigonometry) (session peer : Session) : Option (String × Binary64) :=
  match t.distance session peer with
  | .ok (some distance) => some (peer.id, distance)
  | _ => none

theorem distances_cons (t : Trigonometry) (session peer : Session) (peers : List Session) :
    t.distances session (peer :: peers) =
      match t.distance session peer with
      | .error failure => .error failure
      | .ok none => t.distances session peers
      | .ok (some distance) => ((peer.id, distance) :: ·) <$> t.distances session peers := by
  conv_lhs => unfold distances
  rcases t.distance session peer with failure | (_ | distance) <;> rfl

theorem distances_ok : ∀ {peers : List Session},
    (∀ peer ∈ peers, (t.distance session peer).isOk = true) →
      t.distances session peers = .ok (peers.filterMap (t.measured session))
  | [], _ => rfl
  | peer :: peers, h => by
      have hpeer : (t.distance session peer).isOk = true := h peer (List.mem_cons_self ..)
      have hpeers := distances_ok fun other hother => h other (List.mem_cons_of_mem peer hother)
      rw [distances_cons, hpeers, List.filterMap_cons]
      unfold measured
      generalize t.distance session peer = distance at hpeer ⊢
      rcases distance with failure | (_ | distance)
      · exact Bool.noConfusion hpeer
      · rfl
      · rfl

theorem distances_error : ∀ {peers : List Session},
    (∃ peer ∈ peers, (t.distance session peer).isOk = false) →
      ∃ failure, t.distances session peers = .error failure
  | [], ⟨_, hmem, _⟩ => absurd hmem List.not_mem_nil
  | peer :: peers, ⟨other, hmem, hother⟩ => by
      rw [distances_cons]
      cases hdistance : t.distance session peer with
      | error failure => exact ⟨failure, rfl⟩
      | ok distance =>
          have hrest : other ∈ peers := by
            rcases List.mem_cons.1 hmem with rfl | hmem
            · rw [hdistance] at hother
              exact absurd hother Bool.noConfusion
            · exact hmem
          obtain ⟨failure, hfailure⟩ := distances_error ⟨other, hrest, hother⟩
          rw [hfailure]
          cases distance <;> exact ⟨failure, rfl⟩

/-- Distances fail in every order as soon as one of them fails, and are else the same. -/
theorem alike_distances {peers peers' : List Session} (h : peers.Perm peers') :
    Alike List.Perm (t.distances session peers) (t.distances session peers') := by
  by_cases hall : ∀ peer ∈ peers, (t.distance session peer).isOk = true
  · rw [distances_ok hall, distances_ok fun peer hpeer => hall peer (h.mem_iff.2 hpeer)]
    exact .ok (h.filterMap (t.measured session))
  · simp only [not_forall, Bool.not_eq_true] at hall
    obtain ⟨peer, hpeer, hfails⟩ := hall
    obtain ⟨failure, hfailure⟩ := distances_error ⟨peer, hpeer, hfails⟩
    obtain ⟨failure', hfailure'⟩ := distances_error ⟨peer, h.mem_iff.1 hpeer, hfails⟩
    rw [hfailure, hfailure']
    exact .error failure failure'

end Trigonometry

namespace Binary64

/-- How far a number lies above zero, in steps; nan and what lies below count as zero. -/
def size : Binary64 → ℕ∞
  | finite false steps => steps
  | infinite false => ⊤
  | _ => 0

/-- The number that lies a distance above zero. -/
def ofSize : ℕ∞ → Binary64
  | none => infinite false
  | some steps => finite false steps

theorem size_ofSize (size : ℕ∞) : (ofSize size).size = size := by
  induction size using ENat.recTopCoe <;> rfl

theorem ofSteps_false (steps : Nat) :
    ofSteps false steps = ofSize (if steps < limit then (steps : ℕ∞) else ⊤) := by
  unfold ofSteps
  split_ifs <;> rfl

theorem size_ofSteps_true (steps : Nat) : (ofSteps true steps).size = 0 := by
  unfold ofSteps
  split_ifs <;> rfl

theorem below_ofSize (size : ℕ∞) (x : Binary64) :
    (ofSize size).below x = decide (size < x.size) := by
  induction size using ENat.recTopCoe with
  | top =>
      rw [decide_eq_false not_top_lt]
      rcases x with _ | (_ | _) | ⟨_ | _, m⟩ <;> rfl
  | coe n =>
      have hzero : decide ((n : ℕ∞) < 0) = false := decide_eq_false not_lt_bot
      rcases x with _ | (_ | _) | ⟨_ | _, m⟩
      · exact hzero.symm
      · exact (decide_eq_true (ENat.natCast_lt_top n)).symm
      · exact hzero.symm
      · exact decide_eq_decide.2 (Int.ofNat_lt.trans ENat.natCast_lt_natCast.symm)
      · have hbelow : ¬(n : Int) < -(m : Int) := by omega
        exact (decide_eq_false hbelow).trans hzero.symm

theorem ofSize_size {x : Binary64} (h : 0 < x.size) : ofSize x.size = x := by
  rcases x with _ | (_ | _) | ⟨_ | _, m⟩
  all_goals first | rfl | exact absurd h (lt_irrefl 0)

theorem max_ofSize (size : ℕ∞) (x : Binary64) :
    (ofSize size).max x = ofSize (size ⊔ x.size) := by
  unfold Binary64.max
  rw [below_ofSize]
  by_cases h : size < x.size
  · rw [if_pos (decide_eq_true h), max_eq_right h.le, ofSize_size (pos_of_gt h)]
  · rw [if_neg (by rwa [decide_eq_true_iff]), max_eq_left (not_lt.1 h)]

end Binary64

namespace Observation

/-- The largest of some distances, and of a number not below zero. -/
theorem foldl_max (size : ℕ∞) (found : List (String × Binary64)) :
    found.foldl (fun most (_, distance) => most.max distance) (Binary64.ofSize size) =
      .ofSize (found.foldl (fun most (_, distance) => most ⊔ distance.size) size) :=
  List.foldl_hom Binary64.ofSize fun most (_, distance) => Binary64.max_ofSize most distance

/-- The largest of some distances is the same in any order. -/
theorem largest_perm {found found' : List (String × Binary64)} (h : found.Perm found') :
    largest found = largest found' := by
  have hlargest : ∀ list, largest list =
      .ofSize (list.foldl (fun most (_, distance) => most ⊔ distance.size) 0) := foldl_max 0
  rw [hlargest, hlargest]
  refine congrArg Binary64.ofSize (h.foldl_eq' (fun x _ y _ most => ?_) 0)
  exact max_right_comm most x.2.size y.2.size

/-! ## The session that started last -/

theorem latest_eq_argmax : ∀ sessions : List Session,
    latest sessions = sessions.argmax (·.startedAt.instant)
  | [] => rfl
  | session :: sessions => (List.foldl_hom some fun best next => by
      unfold List.argAux
      exact (apply_ite some ..).symm).symm

/-- The session that started last is the same in any order, if no two different ones started at
once. -/
theorem latest_perm {sessions sessions' : List Session} (h : sessions.Perm sessions')
    (hapart : ∀ a ∈ sessions, ∀ b ∈ sessions, a.startedAt.instant = b.startedAt.instant → a = b) :
    latest sessions' = latest sessions := by
  rw [latest_eq_argmax, latest_eq_argmax]
  cases hlatest : sessions.argmax (·.startedAt.instant) with
  | none =>
      rw [List.argmax_eq_none] at hlatest ⊢
      subst hlatest
      exact h.nil_eq.symm
  | some session =>
      obtain ⟨hmem, hlast, -⟩ := List.argmax_eq_some_iff.1 hlatest
      refine List.argmax_eq_some_iff.2 ⟨h.mem_iff.1 hmem, fun other hother => ?_,
        fun other hother hle => ?_⟩
      · exact hlast other (h.mem_iff.2 hother)
      · have hother := h.mem_iff.2 hother
        have hle' := hlast other hother
        rw [hapart session hmem other hother (Int.le_antisymm hle hle')]

end Observation

end PlaybackRules
