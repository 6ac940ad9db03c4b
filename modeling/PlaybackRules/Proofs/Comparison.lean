import Mathlib.Data.Rat.Cast.Order
import Mathlib.Order.WithBot
import PlaybackRules.Comparison
import PlaybackRules.Proofs.Equality

/-!
# The algebra of comparison

A number other than nan is a rational number or one of two infinities, exactly (`Value.number?`).
The ordering operators are the order of these numbers (`Value.compare_lt_iff` and its three
siblings), whatever mixture of integers and binary numbers is compared; so two of them are in
exactly one of the relations `lt`, `eq` and `gt` (`Value.exactly_one_of_number?`).

Equality is deep equality of the two values with letter case folded, between two booleans or
between two values that are none (`Value.equals_iff`); it is symmetric and transitive as deep
equality is.  `Value.compare_laws` collects the laws of the eight operators.
-/

namespace PlaybackRules

/-! ## Exact values -/

/-- The rational numbers with an infinity at each end. -/
abbrev ExtendedRat := WithBot (WithTop ℚ)

theorem Binary64.one_pos : 0 < one := by decide +kernel

theorem Binary64.cast_one_pos : (0 : ℚ) < one := Nat.cast_pos.2 one_pos

namespace Place

/-- The number at a place: how many steps it is from zero, divided by the steps that make one. -/
def value : Place → ExtendedRat
  | bottom => ⊥
  | steps n => ((n / Binary64.one : ℚ) : WithTop ℚ)
  | top => (⊤ : WithTop ℚ)

theorem below_iff {p q : Place} : p.below q = true ↔ p.value < q.value := by
  cases p with
  | bottom =>
      cases q with
      | bottom => exact iff_of_false Bool.false_ne_true (lt_irrefl _)
      | steps n => exact iff_of_true rfl (WithBot.bot_lt_coe _)
      | top => exact iff_of_true rfl (WithBot.bot_lt_coe _)
  | top =>
      have hbelow : ∀ q, top.below q = false := fun q => by cases q <;> rfl
      have htop : ¬(⊤ : ExtendedRat) < q.value := not_top_lt
      exact iff_of_false (ne_true_of_eq_false (hbelow q)) htop
  | steps m =>
      cases q with
      | bottom => exact iff_of_false Bool.false_ne_true not_lt_bot
      | top =>
          have htop : (steps m).value < top.value := WithBot.coe_lt_coe.2 (WithTop.coe_lt_top _)
          exact iff_of_true rfl htop
      | steps n =>
          rw [below, value, value, decide_eq_true_iff, WithBot.coe_lt_coe, WithTop.coe_lt_coe,
            div_lt_div_iff_of_pos_right Binary64.cast_one_pos, Int.cast_lt]

theorem not_below_iff {p q : Place} : (!p.below q) = true ↔ q.value ≤ p.value := by
  rw [Bool.not_eq_true', ← Bool.not_eq_true, below_iff, not_lt]

theorem value_inj {p q : Place} : p.value = q.value ↔ p = q := by
  refine ⟨fun h => ?_, congrArg value⟩
  have hpq : ¬p.below q = true := fun hlt => (below_iff.1 hlt).ne h
  have hqp : ¬q.below p = true := fun hlt => (below_iff.1 hlt).ne h.symm
  cases p <;> cases q <;> simp [below] at hpq hqp ⊢
  omega

theorem ofInt_inj {m n : Int} : ofInt m = ofInt n ↔ m = n := by
  rw [ofInt, ofInt, steps.injEq,
    Int.mul_eq_mul_right_iff (Int.natCast_ne_zero.2 Binary64.one_pos.ne')]

end Place

/-- The exact value of a finite or infinite number; nan has none. -/
def Binary64.number? : Binary64 → Option ExtendedRat
  | nan => none
  | infinite negative => some (if negative then ⊥ else ⊤)
  | finite negative steps =>
    some (((if negative then -(steps : ℚ) else steps) / one : ℚ) : WithTop ℚ)

namespace Value

/-- The exact value of a number other than nan; a boolean is no number. -/
def number? : Value → Option ExtendedRat
  | int n => some ((n : ℚ) : WithTop ℚ)
  | float x => x.number?
  | _ => none

theorem number?_eq (a : Value) : a.number? = a.real?.map Place.value := by
  cases a with
  | int n =>
      show _ = some (Place.value (.steps (n * Binary64.one)))
      rw [Place.value, Int.cast_mul, Int.cast_natCast,
        mul_div_cancel_right₀ _ Binary64.cast_one_pos.ne']
      rfl
  | float x =>
      cases x with
      | nan => rfl
      | infinite negative => cases negative <;> rfl
      | finite negative steps =>
          show _ = some (Place.value (.steps (if negative then -steps else steps)))
          rw [Place.value, Int.cast_ite, Int.cast_neg, Int.cast_natCast]
          rfl
  | _ => rfl

/-! ## Equality -/

/-- A text with its letter case folded; any other value as it is. -/
def folded : Value → Value
  | str s => str (String.ofList (Text.caseFold s))
  | value => value

def isBool : Value → Bool
  | bool _ => true
  | _ => false

variable {a b c : Value}

theorem folded_eq (h : ∀ s, a ≠ str s) : a.folded = a := by
  cases a with
  | str s => exact absurd rfl (h s)
  | _ => rfl

theorem isBool_eq_false (h : ∀ x, a ≠ bool x) : a.isBool = false := by
  cases a with
  | bool x => exact absurd rfl (h x)
  | _ => rfl

theorem same_folded_of_str {s : String} (h : ∀ t, b ≠ str t) :
    same (str s).folded b.folded = same (str s) b := by
  have hnone : ∀ t, same (str t) b = false := fun t =>
    Bool.eq_false_iff.2 fun hsame => h t (same_str.1 hsame)
  rw [folded_eq h, folded, hnone, hnone]

theorem same_folded (h : ∀ s t, a = str s → b = str t → False) :
    same a.folded b.folded = same a b := by
  cases a with
  | str s => exact same_folded_of_str fun t hb => h s t rfl hb
  | _ =>
      rw [same_comm, same_comm _ b]
      cases b with
      | str t => exact same_folded_of_str nofun
      | _ => rfl

theorem same_bool {x y : Bool} : same (bool x) (bool y) = true ↔ x = y := by
  rw [same_of_place? rfl rfl, beq_iff_eq, Place.ofInt_inj, Int.natCast_inj]
  cases x <;> cases y <;> decide

/-- Two values are equal if both or none of them are booleans and they are the same up to letter
case. -/
theorem equals_iff :
    a.equals b = true ↔ a.isBool = b.isBool ∧ same a.folded b.folded = true := by
  fun_cases equals a b with
  | case1 s t =>
      have hbool : (str s).isBool = (str t).isBool := rfl
      rw [and_iff_right hbool, folded, folded, same_str, str.injEq, String.ofList_inj, beq_iff_eq,
        eq_comm]
  | case2 x y =>
      have hbool : (bool x).isBool = (bool y).isBool := rfl
      rw [and_iff_right hbool, folded, folded, same_bool, beq_iff_eq]
      all_goals nofun
  | case3 b x hb =>
      rw [isBool_eq_false hb]
      exact iff_of_false Bool.false_ne_true nofun
  | case4 a x ha =>
      rw [isBool_eq_false ha]
      exact iff_of_false Bool.false_ne_true nofun
  | case5 a b hstr _ ha hb =>
      rw [and_iff_right ((isBool_eq_false ha).trans (isBool_eq_false hb).symm), same_folded hstr]

theorem compare_eq_iff : a.compare .eq b = true ↔
    a.isBool = b.isBool ∧ same a.folded b.folded = true := equals_iff

theorem compare_eq_symm (h : a.compare .eq b = true) : b.compare .eq a = true := by
  rw [compare_eq_iff] at h ⊢
  exact ⟨h.1.symm, same_symm _ h.2⟩

theorem compare_eq_trans (h : a.compare .eq b = true) (h' : b.compare .eq c = true) :
    a.compare .eq c = true := by
  rw [compare_eq_iff] at h h' ⊢
  exact ⟨h.1.trans h'.1, same_trans _ h.2 h'.2⟩

theorem compare_bool_eq_iff {x : Bool} : (bool x).compare .eq b = true ↔ b = bool x := by
  cases b with
  | bool y =>
      show (x == y) = true ↔ _
      rw [beq_iff_eq, bool.injEq, eq_comm]
  | _ => exact iff_of_false Bool.false_ne_true nofun

/-! ## Order -/

/-- A relation of places, understood as one of exact values. -/
theorem ordered_iff {relation : Place → Place → Bool} {R : ExtendedRat → ExtendedRat → Prop}
    (h : ∀ p q, relation p q = true ↔ R p.value q.value) :
    ordered relation a b = true ↔ ∃ x ∈ a.number?, ∃ y ∈ b.number?, R x y := by
  rw [number?_eq, number?_eq]
  unfold ordered
  cases a.real? with
  | none => simp
  | some p =>
      cases b.real? with
      | none => simp
      | some q => simp [h]

/-- No ordering holds of what is not a number, or nan. -/
theorem ordered_of_number?_eq_none (h : a.number? = none ∨ b.number? = none)
    (relation : Place → Place → Bool) : ordered relation a b = false := by
  rw [number?_eq, number?_eq, Option.map_eq_none_iff, Option.map_eq_none_iff] at h
  unfold ordered
  rcases h with h | h
  · rw [h]
  · rw [h]
    cases a.real? <;> rfl

theorem compare_lt_iff :
    a.compare .lt b = true ↔ ∃ x ∈ a.number?, ∃ y ∈ b.number?, x < y :=
  ordered_iff fun _ _ => Place.below_iff

theorem compare_gt_iff :
    a.compare .gt b = true ↔ ∃ x ∈ a.number?, ∃ y ∈ b.number?, y < x :=
  ordered_iff fun _ _ => Place.below_iff

theorem compare_lte_iff :
    a.compare .lte b = true ↔ ∃ x ∈ a.number?, ∃ y ∈ b.number?, x ≤ y :=
  ordered_iff fun _ _ => Place.not_below_iff

theorem compare_gte_iff :
    a.compare .gte b = true ↔ ∃ x ∈ a.number?, ∃ y ∈ b.number?, y ≤ x :=
  ordered_iff fun _ _ => Place.not_below_iff

theorem compare_gt_eq (a b : Value) : a.compare .gt b = b.compare .lt a := by
  rw [Bool.eq_iff_iff, compare_gt_iff, compare_lt_iff]
  exact ⟨fun ⟨x, hx, y, hy, h⟩ => ⟨y, hy, x, hx, h⟩, fun ⟨y, hy, x, hx, h⟩ => ⟨x, hx, y, hy, h⟩⟩

theorem compare_gt_trans (h : a.compare .gt b = true) (h' : b.compare .gt c = true) :
    a.compare .gt c = true := by
  rw [compare_gt_iff] at h h' ⊢
  obtain ⟨x, hx, y, hy, hyx⟩ := h
  obtain ⟨y', hy', z, hz, hzy⟩ := h'
  obtain rfl : y = y' := Option.mem_unique hy hy'
  exact ⟨x, hx, z, hz, hzy.trans hyx⟩

/-- A number is no boolean and no text, and equal to another by its place. -/
theorem place?_of_real? {p : Place} (h : a.real? = some p) :
    a.place? = some p ∧ a.isBool = false ∧ a.folded = a := by
  cases a with
  | int n => exact ⟨h, rfl, rfl⟩
  | float x => exact ⟨h, rfl, rfl⟩
  | _ => exact absurd h nofun

end Value

/-- The operator that asks whether an ordering is the given one. -/
def Operator.ofOrdering : Ordering → Operator
  | .lt => .lt
  | .eq => .eq
  | .gt => .gt

namespace Value

section Numbers

variable {a b : Value} {x y : ExtendedRat} (ha : a.number? = some x) (hb : b.number? = some y)
include ha hb

theorem compare_eq_iff_of_number? : a.compare .eq b = true ↔ x = y := by
  rw [number?_eq, Option.map_eq_some_iff] at ha hb
  obtain ⟨p, hp, rfl⟩ := ha
  obtain ⟨q, hq, rfl⟩ := hb
  obtain ⟨hplace, hbool, hfolded⟩ := place?_of_real? hp
  obtain ⟨hplace', hbool', hfolded'⟩ := place?_of_real? hq
  rw [compare_eq_iff, hbool, hbool', and_iff_right rfl, hfolded, hfolded',
    same_of_place? hplace hplace', beq_iff_eq, Place.value_inj]

/-- Two numbers are compared as their exact values are. -/
theorem compare_ofOrdering_iff (o : Ordering) :
    a.compare (.ofOrdering o) b = true ↔ cmp x y = o := by
  cases o with
  | lt =>
      rw [Operator.ofOrdering, compare_lt_iff, cmp_eq_lt_iff]
      simp [ha, hb]
  | eq =>
      rw [Operator.ofOrdering, compare_eq_iff_of_number? ha hb, cmp_eq_eq_iff]
  | gt =>
      rw [Operator.ofOrdering, compare_gt_iff, cmp_eq_gt_iff]
      simp [ha, hb]

/-- Of two numbers exactly one is below the other, or they are equal. -/
theorem exactly_one_of_number? :
    ∃! op, op ∈ [Operator.lt, .eq, .gt] ∧ a.compare op b = true := by
  have hholds := compare_ofOrdering_iff ha hb
  refine ⟨.ofOrdering (cmp x y), ⟨?_, (hholds _).2 rfl⟩, ?_⟩
  · cases cmp x y <;> decide
  · rintro op ⟨hmem, hop⟩
    obtain ⟨o, rfl⟩ : ∃ o, Operator.ofOrdering o = op := by
      simp only [List.mem_cons, List.not_mem_nil, or_false] at hmem
      rcases hmem with rfl | rfl | rfl
      exacts [⟨.lt, rfl⟩, ⟨.eq, rfl⟩, ⟨.gt, rfl⟩]
    rw [(hholds o).1 hop]

theorem compare_gte_eq_of_number? :
    a.compare .gte b = (a.compare .gt b || a.compare .eq b) := by
  rw [Bool.eq_iff_iff, Bool.or_eq_true, compare_gte_iff, compare_gt_iff,
    compare_eq_iff_of_number? ha hb]
  simp [ha, hb, le_iff_lt_or_eq, eq_comm]

theorem compare_lte_eq_of_number? :
    a.compare .lte b = (a.compare .lt b || a.compare .eq b) := by
  rw [Bool.eq_iff_iff, Bool.or_eq_true, compare_lte_iff, compare_lt_iff,
    compare_eq_iff_of_number? ha hb]
  simp [ha, hb, le_iff_lt_or_eq]

end Numbers

/-! ## The laws of the operators -/

theorem compare_membership_of_not_list {a b : Value} (hb : ∀ items, b ≠ list items) :
    a.compare .isIn b = false ∧ a.compare .notIn b = false := by
  cases b with
  | list items => exact absurd rfl (hb items)
  | _ => exact ⟨rfl, rfl⟩

theorem compare_laws :
    (∀ a b : Value, a.compare .neq b = !a.compare .eq b) ∧
    (∀ (a : Value) (items : List Value),
      (a.compare .isIn (list items) = true ↔ ∃ item ∈ items, a.compare .eq item = true) ∧
      a.compare .notIn (list items) = !a.compare .isIn (list items)) ∧
    (∀ a b : Value, (∀ items, b ≠ list items) →
      a.compare .isIn b = false ∧ a.compare .notIn b = false) ∧
    (∀ a b : Value, a.compare .eq b = true → b.compare .eq a = true) ∧
    (∀ a b c : Value, a.compare .eq b = true → b.compare .eq c = true →
      a.compare .eq c = true) ∧
    (∀ a b : Value, a.compare .eq b = true → ∀ x, a = bool x ↔ b = bool x) ∧
    (∀ (a b : Value) (x y : ExtendedRat), a.number? = some x → b.number? = some y →
      (a.compare .lt b = true ↔ x < y) ∧ (a.compare .eq b = true ↔ x = y) ∧
      (a.compare .gt b = true ↔ y < x) ∧
      (∃! op, op ∈ [Operator.lt, .eq, .gt] ∧ a.compare op b = true) ∧
      a.compare .gte b = (a.compare .gt b || a.compare .eq b) ∧
      a.compare .lte b = (a.compare .lt b || a.compare .eq b)) ∧
    (∀ a b : Value, a.compare .gt b = b.compare .lt a) ∧
    (∀ a b c : Value, a.compare .gt b = true → b.compare .gt c = true →
      a.compare .gt c = true) ∧
    ∀ a b : Value, a.number? = none ∨ b.number? = none →
      ∀ op ∈ [Operator.gt, .gte, .lt, .lte], a.compare op b = false := by
  refine ⟨fun _ _ => rfl, fun _ _ => ⟨List.any_eq_true, rfl⟩,
    fun _ _ => compare_membership_of_not_list, fun _ _ => compare_eq_symm,
    fun _ _ _ => compare_eq_trans, fun a b h x => ⟨?_, ?_⟩, fun a b x y ha hb => ?_,
    compare_gt_eq, fun _ _ _ => compare_gt_trans, fun a b h op hop => ?_⟩
  · rintro rfl
    exact compare_bool_eq_iff.1 h
  · rintro rfl
    exact compare_bool_eq_iff.1 (compare_eq_symm h)
  · have hholds := compare_ofOrdering_iff ha hb
    exact ⟨(hholds .lt).trans (cmp_eq_lt_iff ..), (hholds .eq).trans (cmp_eq_eq_iff ..),
      (hholds .gt).trans (cmp_eq_gt_iff ..), exactly_one_of_number? ha hb,
      compare_gte_eq_of_number? ha hb, compare_lte_eq_of_number? ha hb⟩
  · have hnone := ordered_of_number?_eq_none h
    simp only [List.mem_cons, List.not_mem_nil, or_false] at hop
    rcases hop with rfl | rfl | rfl | rfl <;> exact hnone _

/-- An integer of 401 digits, one half, and the two infinities. -/
theorem compare_laws_mixed :
    let huge := int (10 ^ 400)
    let half := float (.finite false (Nat.pow 2 1073))
    let least := float (.infinite true)
    let greatest := float (.infinite false)
    (greatest.compare .gt huge = true ∧ huge.compare .gt half = true ∧
      greatest.compare .gt half = true) ∧
    (∃! op, op ∈ [Operator.lt, .eq, .gt] ∧ huge.compare op least = true) ∧
    (∀ op ∈ [Operator.gt, .gte, .lt, .lte], half.compare op (float .nan) = false) ∧
    ((str "Straße").compare .eq (str "STRASSE") = true ∧
      (str "STRASSE").compare .eq (str "strasse") = true ∧
      (str "Straße").compare .eq (str "strasse") = true ∧
      (str "STRASSE").compare .eq (str "Straße") = true) ∧
    ((bool true).compare .eq (bool true) = true ∧ (bool true = bool true ↔ bool true = bool true)) ∧
    (str "a").compare .isIn (str "abc") = false ∧ (str "a").compare .notIn (str "abc") = false := by
  obtain ⟨-, -, hmember, hsymm, htrans, hbool, hexact, -, hgt, hnone⟩ := compare_laws
  have hlong : (str "Straße").compare .eq (str "STRASSE") = true := by decide +kernel
  have hshort : (str "STRASSE").compare .eq (str "strasse") = true := by decide +kernel
  have htop : (float (.infinite false)).compare .gt (int (10 ^ 400)) = true := by decide +kernel
  have hhalf : (int (10 ^ 400)).compare .gt (float (.finite false (Nat.pow 2 1073))) = true := by
    decide +kernel
  obtain ⟨-, -, -, hone, -⟩ := hexact (int (10 ^ 400)) (float (.infinite true)) _ _ rfl rfl
  exact ⟨⟨htop, hhalf, hgt _ _ _ htop hhalf⟩, hone, hnone _ (float .nan) (Or.inr rfl),
    ⟨hlong, hshort, htrans _ _ _ hlong hshort, hsymm _ _ hlong⟩,
    ⟨rfl, hbool _ _ rfl true⟩, hmember (str "a") (str "abc") nofun⟩

end Value

end PlaybackRules
