import Mathlib.Data.List.Forall2
import PlaybackRules.Value

/-!
# Deep equality of values

Deep equality follows the nesting of the two values: lists are equal item by item, objects by keys
in either direction, numbers by their place (`Value.equal_of_same`, `Value.Equal.same`).  It is
symmetric and transitive (`Value.same_symm`, `Value.same_trans`), both by induction on the parts of
the first value (`Value.induction_parts`).  It is not reflexive: nan differs from itself, and so
does whatever contains it.
-/

namespace PlaybackRules

namespace Value

/-! ## Parts -/

/-- The members of a list, or the values of an object. -/
def parts : Value → List Value
  | list items => items
  | object entries => entries.map Prod.snd
  | _ => []

theorem sizeOf_lt_of_mem_parts {value part : Value} (h : part ∈ value.parts) :
    sizeOf part < sizeOf value := by
  cases value with
  | list items =>
      have hitem := List.sizeOf_lt_of_mem (show part ∈ items from h)
      rw [list.sizeOf_spec]
      omega
  | object entries =>
      obtain ⟨⟨key, value⟩, hmem, rfl⟩ := List.mem_map.1 (show part ∈ entries.map Prod.snd from h)
      have hentry := List.sizeOf_lt_of_mem hmem
      rw [Prod.mk.sizeOf_spec] at hentry
      rw [object.sizeOf_spec]
      show sizeOf value < _
      omega
  | _ => exact absurd h List.not_mem_nil

/-- What passes from the parts of a value to the value holds of all values. -/
theorem induction_parts {P : Value → Prop}
    (step : ∀ value : Value, (∀ part ∈ value.parts, P part) → P value) (value : Value) : P value :=
  step value fun part _ => induction_parts step part
termination_by sizeOf value
decreasing_by exact sizeOf_lt_of_mem_parts (by assumption)

/-! ## Equality by kinds -/

theorem sameItems_iff : ∀ {xs ys : List Value},
    sameItems xs ys = true ↔ List.Forall₂ (fun x y => same x y = true) xs ys
  | [], [] => by simp [sameItems]
  | [], _ :: _ => by simp [sameItems]
  | _ :: _, [] => by simp [sameItems]
  | x :: xs, y :: ys => by
      rw [sameItems, Bool.and_eq_true, sameItems_iff, List.forall₂_cons]

theorem everyEntry_iff {ys : Entries} : ∀ {xs : Entries}, everyEntry xs ys = true ↔
    ∀ x ∈ xs, ∃ y ∈ ys, x.1 = y.1 ∧ same x.2 y.2 = true
  | [] => by simp [everyEntry]
  | (key, value) :: xs => by
      rw [everyEntry, Bool.and_eq_true, everyEntry_iff, List.forall_mem_cons, List.any_eq_true]
      simp only [Bool.and_eq_true, beq_iff_eq]

theorem someEntry_iff {key : String} {value : Value} : ∀ {xs : Entries},
    someEntry key value xs = true ↔ ∃ x ∈ xs, x.1 = key ∧ same x.2 value = true
  | [] => by simp [someEntry]
  | (key', value') :: xs => by
      rw [someEntry, Bool.or_eq_true, someEntry_iff, Bool.and_eq_true, beq_iff_eq]
      simp only [List.exists_mem_cons_iff]

/-- Equality of two values, by their kinds. -/
inductive Equal : Value → Value → Prop where
  | null : Equal null null
  | str (s : String) : Equal (str s) (str s)
  | list {xs ys : List Value} (items : List.Forall₂ (fun x y => same x y = true) xs ys) :
      Equal (list xs) (list ys)
  | object {xs ys : Entries} (left : ∀ x ∈ xs, ∃ y ∈ ys, x.1 = y.1 ∧ same x.2 y.2 = true)
      (right : ∀ y ∈ ys, ∃ x ∈ xs, x.1 = y.1 ∧ same x.2 y.2 = true) : Equal (object xs) (object ys)
  | number {a b : Value} {place : Place} (left : a.place? = some place)
      (right : b.place? = some place) : Equal a b

theorem same_object {xs ys : Entries} : same (object xs) (object ys) = true ↔
    (∀ x ∈ xs, ∃ y ∈ ys, x.1 = y.1 ∧ same x.2 y.2 = true) ∧
      ∀ y ∈ ys, ∃ x ∈ xs, x.1 = y.1 ∧ same x.2 y.2 = true := by
  rw [same, Bool.and_eq_true, everyEntry_iff, List.all_eq_true]
  simp only [someEntry_iff]

theorem equal_of_same {a b : Value} : same a b = true → Equal a b := by
  fun_cases same a b with
  | case1 => exact fun _ => .null
  | case2 s t => exact fun h => beq_iff_eq.1 h ▸ .str s
  | case3 xs ys => exact fun h => .list (sameItems_iff.1 h)
  | case4 xs ys =>
      intro h
      have hsame : same (object xs) (object ys) = true := by rwa [same]
      obtain ⟨left, right⟩ := same_object.1 hsame
      exact .object left right
  | case5 a b _ _ _ _ p q hb ha => exact fun h => .number ha (beq_iff_eq.1 h ▸ hb)
  | case6 => exact fun h => absurd h Bool.false_ne_true

/-- Two values that have a place are equal if it is the same. -/
theorem same_of_place? {a b : Value} {p q : Place} (ha : a.place? = some p)
    (hb : b.place? = some q) : same a b = (p == q) := by
  have hplace : none ≠ some p := (Option.some_ne_none p).symm
  cases a with
  | null => exact absurd ha hplace
  | str => exact absurd ha hplace
  | list => exact absurd ha hplace
  | object => exact absurd ha hplace
  | _ =>
      rw [same, ha, hb]
      all_goals simp

theorem Equal.same {a b : Value} (h : Equal a b) : same a b = true := by
  cases h with
  | null => rw [Value.same]
  | str s => rw [Value.same, beq_self_eq_true]
  | list items => rw [Value.same, sameItems_iff]; exact items
  | object left right => exact same_object.2 ⟨left, right⟩
  | number left right => rw [same_of_place? left right, beq_self_eq_true]

theorem same_str {s : String} {b : Value} : same (str s) b = true ↔ b = str s := by
  constructor
  · intro h
    cases equal_of_same h with
    | str s => rfl
    | number left => exact absurd left nofun
  · rintro rfl
    exact (Equal.str s).same

/-! ## Symmetry and transitivity -/

theorem same_symm (a : Value) : ∀ {b : Value}, same a b = true → same b a = true := by
  induction a using induction_parts with | step a ih
  intro b h
  cases equal_of_same h with
  | null => exact h
  | str s => exact h
  | @list xs ys items =>
      have hback : List.Forall₂ (fun x y => same y x = true) xs ys :=
        ((List.forall₂_and_left xs ys).2 ⟨ih, items⟩).imp fun x y hxy => hxy.1 hxy.2
      exact (Equal.list hback.flip).same
  | @object xs ys left right =>
      have hvalue : ∀ x ∈ xs, ∀ {value : Value}, same x.2 value = true → same value x.2 = true :=
        fun x hx => ih x.2 (List.mem_map_of_mem hx)
      refine (Equal.object (fun y hy => ?_) fun x hx => ?_).same
      · obtain ⟨x, hx, hkey, hsame⟩ := right y hy
        exact ⟨x, hx, hkey.symm, hvalue x hx hsame⟩
      · obtain ⟨y, hy, hkey, hsame⟩ := left x hx
        exact ⟨y, hy, hkey.symm, hvalue x hx hsame⟩
  | number left right => exact (Equal.number right left).same

theorem same_comm (a b : Value) : same a b = same b a :=
  Bool.eq_iff_iff.2 ⟨same_symm a, same_symm b⟩

theorem forall₂_same_trans : ∀ {xs ys zs : List Value},
    (∀ x ∈ xs, ∀ {y z : Value}, same x y = true → same y z = true → same x z = true) →
    List.Forall₂ (fun x y => same x y = true) xs ys →
    List.Forall₂ (fun y z => same y z = true) ys zs →
    List.Forall₂ (fun x z => same x z = true) xs zs
  | [], [], [], _, _, _ => .nil
  | x :: _, _ :: _, _ :: _, h, .cons hxy hxys, .cons hyz hyzs =>
      .cons (h x (List.mem_cons_self ..) hxy hyz)
        (forall₂_same_trans (fun other hmem => h other (List.mem_cons_of_mem x hmem)) hxys hyzs)

theorem same_trans (a : Value) : ∀ {b c : Value}, same a b = true → same b c = true →
    same a c = true := by
  induction a using induction_parts with | step a ih
  intro b c hab hbc
  -- What equals a value with a place has one itself, so `a`, `b` and `c` are of one kind.
  cases equal_of_same hab with
  | null => exact hbc
  | str s => exact hbc
  | @list xs ys items =>
      cases equal_of_same hbc with
      | list items' => exact (Equal.list (forall₂_same_trans ih items items')).same
      | number left => exact absurd left nofun
  | @object xs ys left right =>
      cases equal_of_same hbc with
      | number left => exact absurd left nofun
      | @object _ zs left' right' =>
          have hvalue : ∀ x ∈ xs, ∀ {y z : Value}, same x.2 y = true → same y z = true →
              same x.2 z = true := fun x hx => ih x.2 (List.mem_map_of_mem hx)
          refine (Equal.object (fun x hx => ?_) fun z hz => ?_).same
          · obtain ⟨y, hy, hkey, hxy⟩ := left x hx
            obtain ⟨z, hz, hkey', hyz⟩ := left' y hy
            exact ⟨z, hz, hkey.trans hkey', hvalue x hx hxy hyz⟩
          · obtain ⟨y, hy, hkey, hyz⟩ := right' z hz
            obtain ⟨x, hx, hkey', hxy⟩ := right y hy
            exact ⟨x, hx, hkey'.trans hkey, hvalue x hx hxy hyz⟩
  | @number _ _ place left right =>
      cases equal_of_same hbc with
      | @number _ _ place' left' right' =>
          have hplace : place' = place := Option.some.inj (left'.symm.trans right)
          exact (Equal.number left (hplace ▸ right')).same
      | _ => exact absurd right nofun

end Value

end PlaybackRules
