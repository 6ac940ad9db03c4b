import PlaybackRules.Proofs.Behaviour

/-!
# Entries under keys

Setting the value of a key leaves every other key as it was (`Entries.get?_set`).  So when pairs are
set one after another, each key stands once, where it first occurs, and has the value that comes
last (`Entries.collects_setAll`).  Each pair is found under its key exactly if no two of them give
different values to one key (`Entries.Collects.holds_iff`).
-/

namespace PlaybackRules.Entries

/-! ## One key -/

theorem get?_cons (key key' : String) (value : Value) (entries : Entries) :
    Entries.get? ((key', value) :: entries) key =
      if key = key' then some value else entries.get? key := by
  unfold Entries.get?
  rw [List.lookup_cons]
  by_cases h : key = key'
  · rw [if_pos h, beq_iff_eq.2 h]
  · rw [if_neg h, beq_eq_false_iff_ne.2 h]

theorem get?_set (entries : Entries) (key key' : String) (value : Value) :
    (entries.set key value).get? key' = if key' = key then some value else entries.get? key' := by
  induction entries with
  | nil => exact get?_cons key' key value []
  | cons entry entries ih =>
      obtain ⟨first, old⟩ := entry
      unfold Entries.set
      by_cases hfirst : first = key
      · simp only [hfirst, beq_self_eq_true, if_true, get?_cons]
        split <;> rfl
      · simp only [beq_iff_eq, if_neg hfirst, get?_cons, ih]
        -- the key asked for cannot be both the first one and the one that is set
        by_cases hkey : key' = first
        · have hne : ¬key' = key := fun h => hfirst (hkey.symm.trans h)
          rw [if_pos hkey, if_neg hne, if_pos hkey]
        · rw [if_neg hkey, if_neg hkey]

theorem note_cons_of_ne {first key : String} (h : first ≠ key) (seen : List String) :
    Observation.note (first :: seen) key = first :: Observation.note seen key := by
  by_cases hmem : key ∈ seen
  · rw [Observation.note_of_mem hmem, Observation.note_of_mem (List.mem_cons_of_mem first hmem)]
  · have hnot : key ∉ first :: seen := by
      simp only [List.mem_cons, not_or]
      exact ⟨h.symm, hmem⟩
    rw [Observation.note_of_not_mem hmem, Observation.note_of_not_mem hnot]
    rfl

/-- A key is set in its place if it is there, and at the end otherwise. -/
theorem keys_set (entries : Entries) (key : String) (value : Value) :
    (entries.set key value).map Prod.fst = Observation.note (entries.map Prod.fst) key := by
  induction entries with
  | nil => rfl
  | cons entry entries ih =>
      obtain ⟨first, old⟩ := entry
      unfold Entries.set
      by_cases hfirst : first = key
      · rw [if_pos (beq_iff_eq.2 hfirst), List.map_cons, List.map_cons,
          Observation.note_of_mem (hfirst ▸ List.mem_cons_self ..)]
      · have hne : ¬(first == key) = true := fun h => hfirst (beq_iff_eq.1 h)
        rw [if_neg hne, List.map_cons, List.map_cons, ih, note_cons_of_ne hfirst]

/-! ## One key after another -/

/-- Sets the values of some keys, one after another. -/
def setAll (entries : Entries) (pairs : List (String × Value)) : Entries :=
  pairs.foldl (fun entries (key, value) => entries.set key value) entries

theorem get?_setAll : ∀ (pairs : List (String × Value)) (entries : Entries) (key : String),
    (entries.setAll pairs).get? key = (pairs.reverse.lookup key).or (entries.get? key)
  | [], _, _ => rfl
  | (first, value) :: pairs, entries, key => by
      have hrest := get?_setAll pairs (entries.set first value) key
      have hlast : List.lookup key (pairs.reverse ++ [(first, value)]) =
          (List.lookup key pairs.reverse).or (if key = first then some value else none) := by
        rw [List.lookup_append]
        congr 1
        exact get?_cons key first value []
      rw [List.reverse_cons, hlast]
      refine hrest.trans ?_
      rw [get?_set, Option.or_assoc]
      congr 1
      split <;> rfl

theorem keys_setAll : ∀ (pairs : List (String × Value)) (entries : Entries),
    (entries.setAll pairs).map Prod.fst =
      (pairs.map Prod.fst).foldl Observation.note (entries.map Prod.fst)
  | [], _ => rfl
  | (first, value) :: pairs, entries => by
      have hrest := keys_setAll pairs (entries.set first value)
      rw [keys_set] at hrest
      exact hrest

/-- Does every key of some pairs stand once among entries, in order of first occurrence, with the
value that comes last? -/
structure Collects (entries : Entries) (pairs : List (String × Value)) : Prop where
  keys_eq : entries.map Prod.fst = Observation.distinct (pairs.map Prod.fst)
  get?_eq : ∀ key, entries.get? key = pairs.reverse.lookup key

theorem collects_setAll (pairs : List (String × Value)) : (setAll [] pairs).Collects pairs where
  keys_eq := keys_setAll pairs []
  get?_eq key := by
    have hnone : Entries.get? [] key = none := rfl
    rw [get?_setAll, hnone, Option.or_none]

namespace Collects

variable {entries : Entries} {pairs : List (String × Value)} (h : entries.Collects pairs)
include h

theorem ne_nil (hpairs : pairs ≠ []) : entries ≠ [] := by
  rintro rfl
  obtain ⟨⟨key, value⟩, hmem⟩ := List.exists_mem_of_ne_nil _ hpairs
  have hkey : key ∈ Observation.distinct (pairs.map Prod.fst) :=
    Observation.mem_distinct.2 (List.mem_map_of_mem hmem)
  rw [← h.keys_eq] at hkey
  exact absurd hkey List.not_mem_nil

/-- The value of a key is that of the last pair with this key. -/
theorem get?_eq_some_iff {key : String} {value : Value} :
    entries.get? key = some value ↔
      ∃ before after, pairs = before ++ (key, value) :: after ∧
        ∀ pair ∈ after, pair.1 ≠ key := by
  rw [h.get?_eq, List.lookup_eq_some_iff]
  constructor
  · rintro ⟨after, before, heq, hafter⟩
    refine ⟨before.reverse, after.reverse, ?_, fun pair hpair => ?_⟩
    · rw [← pairs.reverse_reverse, heq]
      simp
    · exact (bne_iff_ne.1 (hafter pair (List.mem_reverse.1 hpair))).symm
  · rintro ⟨before, after, rfl, hafter⟩
    refine ⟨after.reverse, before.reverse, by simp, fun pair hpair => ?_⟩
    exact bne_iff_ne.2 (hafter pair (List.mem_reverse.1 hpair)).symm

theorem exists_get? {key : String} {value : Value} (hmem : (key, value) ∈ pairs) :
    ∃ last, entries.get? key = some last ∧ (key, last) ∈ pairs := by
  have hne : entries.get? key ≠ none := by
    intro hnone
    rw [h.get?_eq, List.lookup_eq_none_iff] at hnone
    exact bne_iff_ne.1 (hnone (key, value) (List.mem_reverse.2 hmem)) rfl
  obtain ⟨last, hlast⟩ := Option.ne_none_iff_exists'.1 hne
  obtain ⟨before, after, rfl, -⟩ := h.get?_eq_some_iff.1 hlast
  exact ⟨last, hlast, List.mem_append_right _ (List.mem_cons_self ..)⟩

/-- Every pair is found under its key exactly if no two give different values to one key. -/
theorem holds_iff :
    (∀ pair ∈ pairs, entries.get? pair.1 = some pair.2) ↔
      ∀ a ∈ pairs, ∀ b ∈ pairs, a.1 = b.1 → a.2 = b.2 := by
  constructor
  · intro hall a ha b hb hkey
    have hvalue := (hall a ha).symm
    rw [hkey, hall b hb] at hvalue
    exact Option.some.inj hvalue
  · rintro hsame ⟨key, value⟩ hmem
    obtain ⟨last, hlast, hlastMem⟩ := h.exists_get? hmem
    rw [hlast, hsame _ hmem _ hlastMem rfl]

end Collects

end PlaybackRules.Entries
