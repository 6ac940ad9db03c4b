import PlaybackRules.Proofs.Interleaving
import PlaybackRules.Proofs.Verdict

/-!
# Waiting for pending answers

While the conditions of a group take turns, each keeps the evidence that it has in the end, and what
happens comes off the front of what is due to it.  So a round of turns, or any number of rounds, is
an interleaving of what is due to the conditions (`Progress.Round`), and once as many rounds have
passed as anybody asked for, all are settled and nothing is due any more (`Progress.await_ok`).
-/

namespace PlaybackRules.Progress

variable (settings : Settings) (ruleId : String)

/-- The evidence that a condition has in the end. -/
def final : Progress → Except Failure ConditionEvidence
  | settled evidence => evidence
  | waiting condition pending => .ok (condition.underVerdict (pending.outcome.judge condition))

/-- What is due to a condition whose answer has begun. -/
def due : Progress → List Event
  | settled _ => []
  | waiting condition pending => pending.arrival condition ::
      condition.failureEvents settings ruleId (pending.outcome.judge condition)

/-- What is due to a condition that has yet to begin. -/
def dueFromStart : Progress → List Event
  | settled _ => []
  | waiting condition pending =>
      pending.beginning condition ++ (waiting condition pending).due settings ruleId

theorem eq_settled_of_turnsLeft {progress : Progress} (h : progress.turnsLeft = 0) :
    ∃ evidence, progress = settled evidence := by
  cases progress with
  | settled evidence => exact ⟨evidence, rfl⟩
  | waiting condition pending => cases pending <;> simp [turnsLeft] at h

/-! ## Settled conditions -/

/-- Is there nothing to wait for? -/
def isSettled : Progress → Bool
  | settled _ => true
  | waiting .. => false

theorem eq_settled_of_isSettled {progress : Progress} (h : progress.isSettled = true) :
    ∃ evidence, progress = settled evidence := by
  cases progress with
  | settled evidence => exact ⟨evidence, rfl⟩
  | waiting => exact absurd h Bool.noConfusion

section Settled

variable (config : Configuration) {progress : List Progress}
  (h : ∀ p ∈ progress, p.isSettled = true)
include h

theorem turns_of_settled : ∀ count, turns config ruleId count progress = .done progress
  | 0 => rfl
  | count + 1 => by
      have hturn : Journaled.forEach (turn config ruleId) progress = .done (progress.map id) := by
        refine Journaled.forEach_done fun p hp => ?_
        obtain ⟨evidence, rfl⟩ := eq_settled_of_isSettled (h p hp)
        rfl
      unfold turns
      rw [hturn, List.map_id]
      exact turns_of_settled count

/-- Waiting for settled conditions comes to their evidence at once. -/
theorem await_of_settled :
    await config ruleId progress = Journaled.forEach evidence progress := by
  have hfirst : Journaled.forEach (firstTurn config ruleId) progress =
      .done (progress.map id) := by
    refine Journaled.forEach_done fun p hp => ?_
    obtain ⟨evidence, rfl⟩ := eq_settled_of_isSettled (h p hp)
    rfl
  unfold await
  rw [hfirst, List.map_id]
  show (turns config ruleId _ progress).andThen _ = _
  rw [turns_of_settled ruleId config h]
  rfl

/-- Settled conditions have nothing to give up. -/
theorem discard_of_settled :
    Journaled.forEach (discard config ruleId) progress = Journaled.forEach evidence progress := by
  refine Journaled.forEach_congr fun p hp => ?_
  obtain ⟨evidence, rfl⟩ := eq_settled_of_isSettled (h p hp)
  rfl

end Settled

/-! ## One turn of one condition -/

/-- A turn takes a condition further, when `owed` was due to it before. -/
structure Turn (owed : List Event) (before : Progress) (events : List Event) (after : Progress) :
    Prop where
  final_eq : after.final = before.final
  turnsLeft_eq : after.turnsLeft = before.turnsLeft - 1
  owed_eq : owed = events ++ after.due settings ruleId

theorem turn_ok (progress : Progress) : ∃ events after,
    progress.turn (.ok settings) ruleId = ⟨.ok after, events⟩ ∧
      Turn settings ruleId (progress.due settings ruleId) progress events after := by
  rcases progress with evidence | ⟨condition, ⟨turns, outcome⟩ | ⟨turns, outcome⟩⟩
  · exact ⟨[], settled evidence, rfl, rfl, rfl, rfl⟩
  all_goals
    cases turns with
    | succ turns => exact ⟨[], _, rfl, rfl, rfl, rfl⟩
    | zero =>
        simp only [turn, Condition.conclude_ok, Journaled.emit_eq, Journaled.attempt_eq,
          Journaled.map_ok, Journaled.ok_bind]
        exact ⟨_, _, rfl, rfl, rfl, by simp [due, Pending.arrival, Pending.outcome]⟩

theorem firstTurn_ok (progress : Progress) : ∃ events after,
    progress.firstTurn (.ok settings) ruleId = ⟨.ok after, events⟩ ∧
      Turn settings ruleId (progress.dueFromStart settings ruleId) progress events after := by
  obtain ⟨events, after, hrun, hturn⟩ := turn_ok settings ruleId progress
  rcases progress with evidence | ⟨condition, ⟨turns, outcome⟩ | ⟨turns, outcome⟩⟩
  · exact ⟨events, after, by simpa [firstTurn] using hrun, hturn⟩
  · refine ⟨.began condition :: events, after, by simp [firstTurn, hrun], hturn.final_eq,
      hturn.turnsLeft_eq, ?_⟩
    simp [dueFromStart, Pending.beginning, hturn.owed_eq]
  · refine ⟨events, after, by simpa [firstTurn] using hrun, hturn.final_eq, hturn.turnsLeft_eq, ?_⟩
    simp [dueFromStart, Pending.beginning, hturn.owed_eq]

/-! ## Rounds of all conditions -/

/-- A number of turns takes all conditions further, when `owed` was due to each before: whatever
interleaves what is due after it can come after the events. -/
structure Round (count : Nat) (owed : Progress → List Event) (before : List Progress)
    (events : List Event) (after : List Progress) : Prop where
  final_eq : after.map final = before.map final
  turnsLeft_eq : after.map turnsLeft = before.map fun progress => progress.turnsLeft - count
  interleaving : ∀ {done : List (List Event)} {rest : List Event},
    Interleaving (done ++ after.map (due settings ruleId)) rest →
      Interleaving (done ++ before.map owed) (events ++ rest)

variable {settings ruleId}

theorem Round.trans {owed : Progress → List Event} {n m : Nat} {first last : List Event}
    {before between after : List Progress} (h : Round settings ruleId n owed before first between)
    (h' : Round settings ruleId m (due settings ruleId) between last after) :
    Round settings ruleId (n + m) owed before (first ++ last) after where
  final_eq := h'.final_eq.trans h.final_eq
  turnsLeft_eq := by
    have hmap := congrArg (List.map (· - m)) h.turnsLeft_eq
    simp only [List.map_map, Function.comp_def] at hmap
    rw [h'.turnsLeft_eq, hmap]
    simp only [Nat.sub_sub]
  interleaving hrest := by
    rw [List.append_assoc]
    exact h.interleaving (h'.interleaving hrest)

theorem forEach_round {f : Progress → Journaled Progress} {owed : Progress → List Event}
    (hf : ∀ progress, ∃ events after, f progress = ⟨.ok after, events⟩ ∧
      Turn settings ruleId (owed progress) progress events after) :
    ∀ before : List Progress, ∃ events after, Journaled.forEach f before = ⟨.ok after, events⟩ ∧
      Round settings ruleId 1 owed before events after
  | [] => ⟨[], [], rfl, rfl, rfl, fun h => h⟩
  | progress :: before => by
      obtain ⟨head, next, hhead, hturn⟩ := hf progress
      obtain ⟨tail, after, htail, hround⟩ := forEach_round hf before
      refine ⟨head ++ tail, next :: after, ?_, ?_, ?_, fun {done rest} hrest => ?_⟩
      · rw [Journaled.forEach_cons, hhead, htail]
        simp
      · simp [hturn.final_eq, hround.final_eq]
      · simp [hturn.turnsLeft_eq, hround.turnsLeft_eq]
      · -- The other conditions go first: the head's share is put in front of theirs.
        have hothers : Interleaving ((done ++ [next.due settings ruleId]) ++ before.map owed)
            (tail ++ rest) := hround.interleaving (by simpa using hrest)
        have hall := Interleaving.append_head head (next.due settings ruleId)
          (by simpa using hothers)
        rw [List.map_cons, hturn.owed_eq, List.append_assoc head]
        exact hall

theorem turns_round : ∀ (count : Nat) (before : List Progress), ∃ events after,
    turns (.ok settings) ruleId count before = ⟨.ok after, events⟩ ∧
      Round settings ruleId count (due settings ruleId) before events after
  | 0, before => ⟨[], before, rfl, rfl, rfl, fun h => h⟩
  | count + 1, before => by
      obtain ⟨head, between, hhead, hfirst⟩ :=
        forEach_round (turn_ok settings ruleId) before
      obtain ⟨tail, after, htail, hlast⟩ := turns_round count between
      refine ⟨head ++ tail, after, ?_, ?_⟩
      · rw [turns, hhead, Journaled.ok_bind, htail]
      · rw [Nat.add_comm]
        exact hfirst.trans hlast

/-! ## The end -/

/-- The most turns that any condition asks for, and no fewer than `most`. -/
theorem le_foldl_turnsLeft : ∀ (list : List Progress) (most : Nat),
    most ≤ list.foldl (fun most p => Nat.max most p.turnsLeft) most ∧
      ∀ progress ∈ list,
        progress.turnsLeft ≤ list.foldl (fun most p => Nat.max most p.turnsLeft) most
  | [], most => ⟨Nat.le_refl most, by simp⟩
  | head :: list, most => by
      obtain ⟨hmost, hlist⟩ := le_foldl_turnsLeft list (Nat.max most head.turnsLeft)
      refine ⟨Nat.le_trans (Nat.le_max_left most _) hmost, fun progress hmem => ?_⟩
      rcases List.mem_cons.1 hmem with rfl | htail
      · exact Nat.le_trans (Nat.le_max_right most _) hmost
      · exact hlist progress htail

theorem forEach_evidence : ∀ {list : List Progress} {evidence : List ConditionEvidence},
    list.map final = evidence.map .ok → (∀ progress ∈ list, progress.turnsLeft = 0) →
      Journaled.forEach Progress.evidence list = ⟨.ok evidence, []⟩
  | [], [], _, _ => rfl
  | progress :: list, found :: evidence, hfinal, hsettled => by
      obtain ⟨hhead, htail⟩ := List.cons.inj hfinal
      obtain ⟨outcome, rfl⟩ := eq_settled_of_turnsLeft (hsettled progress (List.mem_cons_self ..))
      have hrest := forEach_evidence htail fun p hp => hsettled p (List.mem_cons_of_mem _ hp)
      rw [Journaled.forEach_cons, hrest, show outcome = .ok found from hhead]
      rfl

variable (settings ruleId) in
/-- What happens while conditions are waited for is an interleaving of what is due to each. -/
theorem await_ok {progress : List Progress} {evidence : List ConditionEvidence}
    (h : progress.map final = evidence.map .ok) :
    ∃ events, await (.ok settings) ruleId progress = ⟨.ok evidence, events⟩ ∧
      Interleaving (progress.map (dueFromStart settings ruleId)) events := by
  obtain ⟨first, begun, hfirst, hbegun⟩ := forEach_round (firstTurn_ok settings ruleId) progress
  set rest := progress.foldl (fun most p => Nat.max most p.turnsLeft) 0
  obtain ⟨later, after, hlater, hafter⟩ := turns_round rest begun
  have hround := hbegun.trans hafter
  have hsettled : ∀ p ∈ after, p.turnsLeft = 0 := by
    intro p hp
    have hmem : p.turnsLeft ∈ after.map turnsLeft := List.mem_map_of_mem hp
    rw [hround.turnsLeft_eq] at hmem
    obtain ⟨before, hbefore, heq⟩ := List.mem_map.1 hmem
    have hbound := (le_foldl_turnsLeft progress 0).2 before hbefore
    omega
  have hdue : ∀ list ∈ after.map (due settings ruleId), list = [] := by
    intro list hlist
    obtain ⟨p, hp, rfl⟩ := List.mem_map.1 hlist
    obtain ⟨evidence, rfl⟩ := eq_settled_of_turnsLeft (hsettled p hp)
    rfl
  have hevidence := forEach_evidence (hround.final_eq.trans h) hsettled
  refine ⟨first ++ later, ?_, ?_⟩
  · unfold await
    rw [hfirst, Journaled.ok_bind, hlater, Journaled.ok_bind, hevidence]
    simp
  · have hall : Interleaving ([] ++ progress.map (dueFromStart settings ruleId))
        ((first ++ later) ++ []) := hround.interleaving (.done hdue)
    simpa using hall

end PlaybackRules.Progress
