import Mathlib.Algebra.Order.Floor.Ring
import Mathlib.Data.Rat.Floor
import PlaybackRules.Proofs.Behaviour
import PlaybackRules.Proofs.Comparison
import PlaybackRules.Proofs.Nearest

/-!
# Distinct names in a window

A window lasts the number of hours it is given by, rounded to the nearest microsecond, where the
fraction of an hour has been rounded to a binary number before (`Window.lasts_iff`).  That is one of
the two whole microseconds beside it (`Window.micros_near`), and of two windows the one of more
hours does not last shorter (`Window.micros_mono`), be they whole, fractional, zero or negative.

What is observed in a window is the list of the distinct names of the current session and of those
of its user in the window, in order of first occurrence (`Context.namesFrom_distinct`); a longer
window only adds to the names.  `Observation.unique_countsNames` says so of the addresses and of the
devices.
-/

namespace PlaybackRules

/-! ## The length of a window -/

namespace Window

/-- The exact number of hours that a value stands for, a boolean counting as 0 or 1. -/
def hours? : Value → Option ℚ
  | .bool b => some b.toNat
  | .int n => some n
  | .float (.finite negative steps) =>
    some ((if negative then -(steps : ℚ) else steps) / Binary64.one)
  | _ => none

/-- The microseconds of a fraction of an hour. -/
def fraction (steps : Nat) : Nat :=
  roundQuotient (Binary64.roundSteps (steps * hour) 1) Binary64.one

/-- The microseconds of a number of hours not below zero. -/
def magnitude (steps : Nat) : Nat :=
  steps / Binary64.one * hour + fraction (steps % Binary64.one)

/-- The microseconds of a number of hours at a place on the number line. -/
def lengthAt (place : Int) : Int :=
  if place < 0 then -(magnitude place.natAbs) else magnitude place.natAbs

theorem fraction_zero : fraction 0 = 0 := by decide +kernel

theorem magnitude_whole (n : Nat) : magnitude (n * Binary64.one) = n * hour := by
  rw [magnitude, Nat.mul_div_cancel _ Binary64.one_pos, Nat.mul_mod_left, fraction_zero,
    Nat.add_zero]

theorem lengthAt_natCast (n : Nat) : lengthAt n = magnitude n := if_neg (by omega)

theorem lengthAt_neg (place : Int) : lengthAt (-place) = -lengthAt place := by
  have hzero : magnitude 0 = 0 := by decide +kernel
  unfold lengthAt
  rw [Int.natAbs_neg]
  rcases Int.lt_trichotomy place 0 with hlt | rfl | hlt
  · rw [if_neg (by omega), if_pos hlt, neg_neg]
  · simp [hzero]
  · rw [if_pos (by omega), if_neg (by omega)]

theorem ofBinary_eq (negative : Bool) (steps : Nat) :
    ofBinary negative steps = lengthAt (if negative then -(steps : Int) else steps) := by
  have hofBinary : ofBinary negative steps =
      if negative then -(magnitude steps : Int) else magnitude steps := rfl
  rw [hofBinary]
  cases negative with
  | false => exact (lengthAt_natCast steps).symm
  | true => rw [if_pos rfl, if_pos rfl, lengthAt_neg, lengthAt_natCast]

/-- Whole hours count exactly. -/
theorem lengthAt_whole (n : Int) : lengthAt (n * Binary64.one) = n * hour := by
  have hnat : ∀ n : Nat, lengthAt (n * Binary64.one) = n * hour := fun n => by
    rw [← Nat.cast_mul, lengthAt_natCast, magnitude_whole, Nat.cast_mul]
  obtain ⟨m, rfl | rfl⟩ := n.eq_nat_or_neg
  · exact hnat m
  · rw [Int.neg_mul, lengthAt_neg, hnat, Int.neg_mul]

theorem eq_of_ofMicros {micros length : Int} (h : ofMicros micros = .ok length) :
    length = micros := by
  dsimp only [ofMicros] at h
  split at h
  · exact (Except.ok.inj h).symm
  · cases h

/-- A window that can be laid is of some number of hours, and its length depends on these alone. -/
theorem exists_place_of_micros {hours : Value} {length : Int} (h : micros hours = .ok length) :
    ∃ place : Int, hours? hours = some ((place : ℚ) / Binary64.one) ∧ length = lengthAt place := by
  have hone : (Binary64.one : ℚ) ≠ 0 := Binary64.cast_one_pos.ne'
  unfold micros at h
  split at h
  case h_1 b =>
      refine ⟨b.toNat * Binary64.one, ?_, ?_⟩
      · rw [hours?, Int.cast_mul, Int.cast_natCast, Int.cast_natCast, mul_div_cancel_right₀ _ hone]
      · rw [lengthAt_whole, eq_of_ofMicros h]
  case h_2 n =>
      refine ⟨n * Binary64.one, ?_, ?_⟩
      · rw [hours?, Int.cast_mul, Int.cast_natCast, mul_div_cancel_right₀ _ hone]
      · rw [lengthAt_whole, eq_of_ofMicros h]
  case h_3 negative steps =>
      refine ⟨if negative then -(steps : Int) else steps, ?_, ?_⟩
      · rw [hours?, Int.cast_ite, Int.cast_neg, Int.cast_natCast]
      · rw [← ofBinary_eq, eq_of_ofMicros h]
  all_goals cases h

/-! ### Order -/

/-- A fraction of an hour is rounded to at most a whole hour. -/
theorem fraction_le {steps : Nat} (h : steps < Binary64.one) : fraction steps ≤ hour := by
  refine roundQuotient_le Binary64.one_pos ?_
  calc Binary64.roundSteps (steps * hour) 1
      ≤ Binary64.roundSteps (Binary64.one * hour) 1 :=
        Binary64.roundSteps_mono one_pos one_pos
          (Nat.mul_le_mul_right 1 (Nat.mul_le_mul_right hour h.le))
    _ = hour * Binary64.one := by decide +kernel

theorem fraction_mono {m n : Nat} (h : m ≤ n) : fraction m ≤ fraction n := by
  have hsteps : Binary64.roundSteps (m * hour) 1 ≤ Binary64.roundSteps (n * hour) 1 :=
    Binary64.roundSteps_mono one_pos one_pos (Nat.mul_le_mul_right 1 (Nat.mul_le_mul_right hour h))
  exact roundQuotient_mono Binary64.one_pos Binary64.one_pos
    (Nat.mul_le_mul_right Binary64.one hsteps)

theorem magnitude_mono {m n : Nat} (h : m ≤ n) : magnitude m ≤ magnitude n := by
  have hm := Nat.div_add_mod' m Binary64.one
  have hn := Nat.div_add_mod' n Binary64.one
  have hrest := Nat.mod_lt m Binary64.one_pos
  unfold magnitude
  rcases (Nat.div_le_div_right (c := Binary64.one) h).lt_or_eq with hlt | heq
  · -- the fraction of the smaller one does not reach the next whole hour
    have hfraction := fraction_le hrest
    have hwhole : (m / Binary64.one + 1) * hour ≤ n / Binary64.one * hour :=
      Nat.mul_le_mul_right hour hlt
    have hsucc : (m / Binary64.one + 1) * hour = m / Binary64.one * hour + hour := by ring
    omega
  · have hle : m % Binary64.one ≤ n % Binary64.one := by
      rw [heq] at hm
      omega
    rw [heq]
    exact Nat.add_le_add_left (fraction_mono hle) _

theorem lengthAt_mono {p q : Int} (h : p ≤ q) : lengthAt p ≤ lengthAt q := by
  unfold lengthAt
  split
  · split
    · have hle : magnitude q.natAbs ≤ magnitude p.natAbs := magnitude_mono (by omega)
      omega
    · omega
  · have hle : magnitude p.natAbs ≤ magnitude q.natAbs := magnitude_mono (by omega)
    split <;> omega

/-- Of two windows the one of more hours does not last shorter. -/
theorem micros_mono {hours hours' : Value} {length length' : Int} {x x' : ℚ}
    (h : micros hours = .ok length) (h' : micros hours' = .ok length') (hx : hours? hours = some x)
    (hx' : hours? hours' = some x') (hle : x ≤ x') : length ≤ length' := by
  obtain ⟨place, hplace, rfl⟩ := exists_place_of_micros h
  obtain ⟨place', hplace', rfl⟩ := exists_place_of_micros h'
  obtain rfl := Option.some.inj (hx.symm.trans hplace)
  obtain rfl := Option.some.inj (hx'.symm.trans hplace')
  rw [div_le_div_iff_of_pos_right Binary64.cast_one_pos, Int.cast_le] at hle
  exact lengthAt_mono hle

/-! ### Accuracy -/

/-- A fraction of an hour is rounded twice, to a binary number and to a whole microsecond, by less
than a microsecond in all. -/
theorem fraction_near {steps : Nat} (h : steps < Binary64.one) :
    fraction steps * Binary64.one < steps * hour + Binary64.one ∧
      steps * hour < fraction steps * Binary64.one + Binary64.one := by
  have hsteps := Binary64.roundSteps_near (steps * hour) one_pos
  have hround := roundQuotient_near (Binary64.roundSteps (steps * hour) 1) Binary64.one_pos
  have hspare : Binary64.spareBits (steps * hour / 1) ≤ 1053 :=
    calc Binary64.spareBits (steps * hour / 1)
        ≤ Binary64.spareBits (Binary64.one * hour) := by
          rw [Nat.div_one]
          exact Binary64.spareBits_mono (Nat.mul_le_mul_right hour h.le)
      _ = 1053 := by decide +kernel
  have hbit : 2 ^ Binary64.spareBits (steps * hour / 1) < Binary64.one :=
    Binary64.pow_lt_one (by omega)
  unfold fraction
  omega

theorem magnitude_near (steps : Nat) :
    magnitude steps * Binary64.one < steps * hour + Binary64.one ∧
      steps * hour < magnitude steps * Binary64.one + Binary64.one := by
  have hnear := fraction_near (Nat.mod_lt steps Binary64.one_pos)
  have hexact : steps * hour = steps / Binary64.one * hour * Binary64.one +
      steps % Binary64.one * hour := by
    conv_lhs => rw [← Nat.div_add_mod' steps Binary64.one]
    ring
  have hlength : magnitude steps * Binary64.one = steps / Binary64.one * hour * Binary64.one +
      fraction (steps % Binary64.one) * Binary64.one := Nat.add_mul ..
  omega

theorem lengthAt_near (place : Int) :
    |lengthAt place * Binary64.one - place * hour| < (Binary64.one : Int) := by
  have hnat : ∀ n : Nat, |lengthAt n * Binary64.one - n * hour| < (Binary64.one : Int) := by
    intro n
    obtain ⟨hupper, hlower⟩ := magnitude_near n
    rw [lengthAt_natCast, abs_lt]
    zify at hupper hlower
    constructor <;> linarith
  obtain ⟨n, rfl | rfl⟩ := place.eq_nat_or_neg
  · exact hnat n
  · rw [lengthAt_neg, Int.neg_mul, Int.neg_mul, neg_sub_neg, abs_sub_comm]
    exact hnat n

/-- A window lasts as many hours as it is given by, to within a microsecond. -/
theorem micros_near {hours : Value} {length : Int} {x : ℚ} (h : micros hours = .ok length)
    (hx : hours? hours = some x) : |(length : ℚ) - x * hour| < 1 := by
  obtain ⟨place, hplace, rfl⟩ := exists_place_of_micros h
  obtain rfl := Option.some.inj (hx.symm.trans hplace)
  have hscaled : (lengthAt place : ℚ) - place / Binary64.one * hour =
      ((lengthAt place * Binary64.one - place * hour : Int) : ℚ) / Binary64.one := by
    rw [Int.cast_sub, Int.cast_mul, Int.cast_mul, Int.cast_natCast, Int.cast_natCast, sub_div,
      mul_div_cancel_right₀ _ Binary64.cast_one_pos.ne', div_mul_eq_mul_div]
  rw [hscaled, abs_div, abs_of_pos Binary64.cast_one_pos, div_lt_one Binary64.cast_one_pos]
  exact_mod_cast lengthAt_near place

/-! ### Rounding -/

/-- A window of a number of hours lasts a number of microseconds of the same sign.  Its whole hours
count exactly.  The fraction of an hour is multiplied out and rounded to a binary number, and the
sum to the nearest microsecond, a tie to the even one. -/
structure Lasts (x : ℚ) (length : Int) : Prop where
  nonneg : 0 ≤ x → 0 ≤ length
  nonpos : x ≤ 0 → length ≤ 0
  nearest : ∃ product : Nat,
    Binary64.IsRounded (Int.fract |x| * hour * Binary64.one) product ∧
    IsNearest (⌊|x|⌋ * hour + product / Binary64.one) |length|

/-- No other length is as long. -/
theorem Lasts.unique {x : ℚ} {length length' : Int} (h : Lasts x length) (h' : Lasts x length') :
    length = length' := by
  obtain ⟨product, hproduct, hlength⟩ := h.nearest
  obtain ⟨product', hproduct', hlength'⟩ := h'.nearest
  obtain rfl := hproduct.unique hproduct'
  have habs : |length| = |length'| := hlength.unique hlength'
  rcases le_total 0 x with hx | hx
  · rwa [abs_of_nonneg (h.nonneg hx), abs_of_nonneg (h'.nonneg hx)] at habs
  · rw [abs_of_nonpos (h.nonpos hx), abs_of_nonpos (h'.nonpos hx)] at habs
    exact neg_inj.1 habs

/-- Whole hours are an even number of microseconds, so the fraction of an hour may be rounded by
itself. -/
theorem isNearest_whole_add {x : ℚ} {n : Int} (h : IsNearest x n) (whole : Nat) :
    IsNearest ((whole : ℚ) * hour + x) (whole * hour + n) := by
  have hdistance : (whole : ℚ) * hour + x - ((whole * hour + n : Int) : ℚ) = x - n := by
    push_cast
    ring
  have heven : Even ((whole : Int) * hour) := Even.mul_left (by decide) _
  refine ⟨?_, fun htie => heven.add (h.even ?_)⟩
  · rw [hdistance]
    exact h.near
  · rwa [hdistance] at htie

theorem isNearest_magnitude (steps : Nat) :
    ∃ product : Nat,
      Binary64.IsRounded (((steps % Binary64.one : Nat) : ℚ) / Binary64.one * hour * Binary64.one)
        product ∧
      IsNearest (((steps / Binary64.one : Nat) : ℚ) * hour + product / Binary64.one)
        (magnitude steps) := by
  have hproduct := Binary64.isRounded_roundSteps (steps % Binary64.one * hour) one_pos
  have hfraction := isNearest_roundQuotient
    (Binary64.roundSteps (steps % Binary64.one * hour) 1) Binary64.one_pos
  refine ⟨_, ?_, isNearest_whole_add hfraction (steps / Binary64.one)⟩
  have hone : (Binary64.one : ℚ) ≠ 0 := Binary64.cast_one_pos.ne'
  rw [div_mul_eq_mul_div, div_mul_cancel₀ _ hone]
  rwa [Nat.cast_mul, Nat.cast_one, div_one] at hproduct

theorem lasts_lengthAt (place : Int) : Lasts ((place : ℚ) / Binary64.one) (lengthAt place) := by
  have hpos := Binary64.cast_one_pos
  have habs : |(place : ℚ) / Binary64.one| = ((place.natAbs : Nat) : ℚ) / (Binary64.one : Nat) := by
    rw [abs_div, abs_of_pos hpos, Nat.cast_natAbs, Int.cast_abs]
  have hlength : |lengthAt place| = magnitude place.natAbs := by
    unfold lengthAt
    split_ifs
    · rw [abs_neg, Nat.abs_cast]
    · rw [Nat.abs_cast]
  have hzero : lengthAt 0 = 0 := by decide +kernel
  refine ⟨fun hx => ?_, fun hx => ?_, ?_⟩
  · rw [le_div_iff₀ hpos, zero_mul, Int.cast_nonneg_iff] at hx
    exact hzero.ge.trans (lengthAt_mono hx)
  · rw [div_le_iff₀ hpos, zero_mul, Int.cast_nonpos] at hx
    exact (lengthAt_mono hx).trans hzero.le
  · rw [habs, hlength, Int.fract_div_natCast_eq_div_natCast_mod, Rat.floor_natCast_div_natCast]
    exact isNearest_magnitude place.natAbs

/-- A window lasts the one length that its number of hours is rounded to. -/
theorem lasts_iff {hours : Value} {length : Int} {x : ℚ} (h : micros hours = .ok length)
    (hx : hours? hours = some x) (other : Int) : Lasts x other ↔ other = length := by
  obtain ⟨place, hplace, rfl⟩ := exists_place_of_micros h
  obtain rfl := Option.some.inj (hx.symm.trans hplace)
  have hlasts := lasts_lengthAt place
  exact ⟨fun hother => hother.unique hlasts, fun heq => heq ▸ hlasts⟩

end Window

/-! ## Names in order of first occurrence -/

namespace Observation

theorem distinct_append_singleton (names : List String) (name : String) :
    distinct (names ++ [name]) = note (distinct names) name := by
  rw [distinct_eq, List.foldl_append, ← distinct_eq]
  rfl

/-- The names already seen stay in front. -/
theorem prefix_foldl_note : ∀ (names seen : List String), seen <+: names.foldl note seen
  | [], seen => List.prefix_rfl
  | name :: names, seen => by
      have hnote : seen <+: note seen name := by
        by_cases hmem : name ∈ seen
        · rw [note_of_mem hmem]
        · rw [note_of_not_mem hmem]
          exact List.prefix_append seen [name]
      exact hnote.trans (prefix_foldl_note names (note seen name))

theorem head?_distinct (name : String) (names : List String) :
    (distinct (name :: names)).head? = some name := by
  obtain ⟨rest, hrest⟩ := prefix_foldl_note names [name]
  have hdistinct : distinct (name :: names) = name :: rest := hrest.symm
  rw [hdistinct, List.head?_cons]

theorem pairwise_distinct (names : List String) :
    (distinct names).Pairwise fun a b => names.idxOf a < names.idxOf b := by
  induction names using List.reverseRecOn with
  | nil => exact List.Pairwise.nil
  | append_singleton names name ih =>
      have hidx : ∀ other ∈ distinct names,
          (names ++ [name]).idxOf other = names.idxOf other :=
        fun other hother => List.idxOf_append_of_mem (mem_distinct.1 hother)
      have hpairs : (distinct names).Pairwise fun a b =>
          (names ++ [name]).idxOf a < (names ++ [name]).idxOf b :=
        ih.imp_of_mem fun ha hb hlt => by rwa [hidx _ ha, hidx _ hb]
      rw [distinct_append_singleton]
      by_cases hmem : name ∈ distinct names
      · rwa [note_of_mem hmem]
      · rw [note_of_not_mem hmem, List.pairwise_append]
        refine ⟨hpairs, List.pairwise_singleton _ _, fun a ha b hb => ?_⟩
        obtain rfl := List.mem_singleton.1 hb
        have hlt := List.idxOf_lt_length_of_mem (mem_distinct.1 ha)
        have hlast : (names ++ [b]).idxOf b = names.length + [b].idxOf b :=
          List.idxOf_append_of_notMem (mt mem_distinct.2 hmem)
        rw [hidx a ha, hlast]
        omega

end Observation

/-! ## Names in a window -/

/-- A list holds the names of the current session and of those of the user that started at a cutoff
or after: each once, the name of the current session first, in order of first occurrence. -/
structure Context.NamesFrom (context : Context) (name : Session → String) (cutoff : Int)
    (names : List String) : Prop where
  head : names.head? = some (name context.session)
  nodup : names.Nodup
  mem : ∀ text, text ∈ names ↔ text = name context.session ∨
    ∃ peer ∈ context.recent, (peer.session context.session).userId = context.user.id ∧
      cutoff ≤ (peer.session context.session).startedAt.instant ∧
      text = name (peer.session context.session)
  inOrder : names.Pairwise fun a b =>
    let occurrences := (context.session :: context.since cutoff context.recent).map name
    occurrences.idxOf a < occurrences.idxOf b

section Names

variable {context : Context} {name : Session → String} {cutoff cutoff' : Int}
  {names names' : List String}

theorem Context.mem_since {list : List Peer} {session : Session} :
    session ∈ context.since cutoff list ↔ ∃ peer ∈ list, peer.session context.session = session ∧
      session.userId = context.user.id ∧ cutoff ≤ session.startedAt.instant := by
  unfold Context.since
  rw [List.mem_filter, List.mem_map, Bool.and_eq_true, beq_iff_eq, decide_eq_true_iff]
  constructor
  · rintro ⟨⟨peer, hpeer, heq⟩, hcounts⟩
    exact ⟨peer, hpeer, heq, hcounts⟩
  · rintro ⟨peer, hpeer, heq, hcounts⟩
    exact ⟨⟨peer, hpeer, heq⟩, hcounts⟩

theorem Context.namesFrom_distinct (context : Context) (name : Session → String) (cutoff : Int) :
    context.NamesFrom name cutoff (Observation.distinct
      ((context.session :: context.since cutoff context.recent).map name)) where
  head := Observation.head?_distinct ..
  nodup := Observation.nodup_distinct _
  mem text := by
    rw [Observation.mem_distinct, List.map_cons, List.mem_cons, List.mem_map]
    refine or_congr_right ⟨?_, ?_⟩
    · rintro ⟨session, hsession, rfl⟩
      obtain ⟨peer, hpeer, rfl, huser, hcutoff⟩ := mem_since.1 hsession
      exact ⟨peer, hpeer, huser, hcutoff, rfl⟩
    · rintro ⟨peer, hpeer, huser, hcutoff, rfl⟩
      exact ⟨_, mem_since.2 ⟨peer, hpeer, rfl, huser, hcutoff⟩, rfl⟩
  inOrder := Observation.pairwise_distinct _

/-- The names from an earlier cutoff on are those from a later one and perhaps more. -/
theorem Context.NamesFrom.subset (h : context.NamesFrom name cutoff names)
    (h' : context.NamesFrom name cutoff' names') (hle : cutoff' ≤ cutoff) : names ⊆ names' := by
  intro text htext
  rcases (h.mem text).1 htext with hcurrent | ⟨peer, hpeer, huser, hcutoff, hname⟩
  · exact (h'.mem text).2 (.inl hcurrent)
  · exact (h'.mem text).2 (.inr ⟨peer, hpeer, huser, hle.trans hcutoff, hname⟩)

end Names

/-! ## Windows before the current session -/

/-- A window that begins within the calendar begins its length before the moment, which is its
number of hours, rounded, and so within a microsecond of that number. -/
theorem Window.length_of_cutoff {moment : Moment} {hours : Value} {cutoff : Int}
    (h : Window.cutoff moment hours = .ok cutoff) :
    ∃ (x : ℚ) (length : Int), Window.hours? hours = some x ∧ Window.micros hours = .ok length ∧
      |length - x * Window.hour| < 1 ∧ (∀ other, Window.Lasts x other ↔ other = length) ∧
      cutoff = moment.instant - length := by
  unfold Window.cutoff at h
  cases hlength : Window.micros hours with
  | error failure =>
      rw [hlength] at h
      cases h
  | ok length =>
      obtain ⟨place, hplace, -⟩ := Window.exists_place_of_micros hlength
      refine ⟨_, length, hplace, rfl, Window.micros_near hlength hplace,
        Window.lasts_iff hlength hplace, ?_⟩
      rw [hlength] at h
      change (if _ then _ else _) = _ at h
      split at h
      · exact (Except.ok.inj h).symm
      · cases h

/-- Of two windows before a moment the one of more hours does not begin later. -/
theorem Window.cutoff_anti {moment : Moment} {hours hours' : Value} {cutoff cutoff' : Int}
    {x x' : ℚ} (h : Window.cutoff moment hours = .ok cutoff)
    (h' : Window.cutoff moment hours' = .ok cutoff') (hx : Window.hours? hours = some x)
    (hx' : Window.hours? hours' = some x') (hle : x ≤ x') : cutoff' ≤ cutoff := by
  obtain ⟨-, length, -, hlength, -, -, rfl⟩ := Window.length_of_cutoff h
  obtain ⟨-, length', -, hlength', -, -, rfl⟩ := Window.length_of_cutoff h'
  have hmono := Window.micros_mono hlength hlength' hx hx' hle
  omega

namespace Observation

/-- A finding that counts a list of names. -/
def counted (condition : Condition) (key : String) (hours : Value) (names : List String) :
    Finding where
  matched := condition.holds (.int names.length)
  actual := .int names.length
  details := some [(key, .ofList .str names), ("window_hours", hours)]

/-- An observation counts the distinct names in the window of a condition, provided that the window
begins within the calendar.  The window lasts its number of hours as that is rounded, which leaves
it within a microsecond.  A window of more hours counts the same names and perhaps more. -/
structure CountsNames (window : Except Failure Binary64) (context : Context) (key : String)
    (name : Session → String)
    (observe : Except Failure Binary64 → Context → Condition → Except Failure Finding) : Prop where
  counts : ∀ condition hours cutoff, windowHours window condition = .ok hours →
    Window.cutoff context.session.startedAt hours = .ok cutoff →
      ∃ (x : ℚ) (length : Int) (names : List String), Window.hours? hours = some x ∧
        |length - x * Window.hour| < 1 ∧ (∀ other, Window.Lasts x other ↔ other = length) ∧
        cutoff = context.session.startedAt.instant - length ∧
        context.NamesFrom name cutoff names ∧
        observe window context condition = .ok (counted condition key hours names)
  mono : ∀ condition condition' hours hours' cutoff cutoff' x x',
    windowHours window condition = .ok hours → windowHours window condition' = .ok hours' →
    Window.cutoff context.session.startedAt hours = .ok cutoff →
    Window.cutoff context.session.startedAt hours' = .ok cutoff' →
    Window.hours? hours = some x → Window.hours? hours' = some x' → x ≤ x' →
      ∃ names names',
        observe window context condition = .ok (counted condition key hours names) ∧
        observe window context condition' = .ok (counted condition' key hours' names') ∧
        names ⊆ names' ∧ names.length ≤ names'.length

theorem distinctInWindow_counted {window : Except Failure Binary64} {context : Context}
    {condition : Condition} {hours : Value} {cutoff : Int}
    (hhours : windowHours window condition = .ok hours)
    (hcutoff : Window.cutoff context.session.startedAt hours = .ok cutoff) (key : String)
    (name : Session → String) :
    distinctInWindow key name window context condition = .ok (counted condition key hours
      (distinct ((context.session :: context.since cutoff context.recent).map name))) := by
  rw [distinctInWindow_eq, hhours]
  simp only [bind, Except.bind, hcutoff]
  rfl

theorem countsNames_distinctInWindow (window : Except Failure Binary64) (context : Context)
    (key : String) (name : Session → String) :
    CountsNames window context key name (distinctInWindow key name) where
  counts condition hours cutoff hhours hcutoff := by
    obtain ⟨x, length, hx, -, hnear, hlasts, hlength⟩ := Window.length_of_cutoff hcutoff
    exact ⟨x, length, _, hx, hnear, hlasts, hlength, context.namesFrom_distinct name cutoff,
      distinctInWindow_counted hhours hcutoff key name⟩
  mono condition condition' hours hours' cutoff cutoff' x x' hhours hhours' hcutoff hcutoff' hx
      hx' hle := by
    have hnames := context.namesFrom_distinct name cutoff
    have hsubset := hnames.subset (context.namesFrom_distinct name cutoff')
      (Window.cutoff_anti hcutoff hcutoff' hx hx' hle)
    exact ⟨_, _, distinctInWindow_counted hhours hcutoff key name,
      distinctInWindow_counted hhours' hcutoff' key name, hsubset,
      (hnames.nodup.subperm hsubset).length_le⟩

/-- The addresses and the devices in a window are counted by their distinct names, where a device
goes by its identifier, else by the name of its player, else as unknown. -/
theorem unique_countsNames (window : Except Failure Binary64) (context : Context) :
    CountsNames window context "ips" Session.ipAddress uniqueIps ∧
      CountsNames window context "devices"
        (fun session => session.deviceId.getD (session.playerName.getD "unknown"))
        uniqueDevices :=
  ⟨countsNames_distinctInWindow window context "ips" Session.ipAddress,
    countsNames_distinctInWindow window context "devices" deviceName⟩

/-- A session a quarter of an hour before the current one lies in a window of half an hour, and
another an hour and a half before it only in one of two hours. -/
theorem unique_countsNames_half :
    let moment (seconds : Nat) (h : (CivilTime.ofSeconds? seconds 0).isSome) : Moment :=
      ⟨(CivilTime.ofSeconds? seconds 0).get h, .utc⟩
    let start := moment 36000 rfl
    let near : Session :=
      { Context.lone.session with ipAddress := "10.0.0.2", startedAt := moment 35100 rfl }
    let far : Session := { near with ipAddress := "10.0.0.3", startedAt := moment 30600 rfl }
    let context : Context := { Context.lone with
      session := { Context.lone.session with ipAddress := "10.0.0.1", startedAt := start }
      recent := [.other far, .current, .other near, .other near] }
    let half := Value.float (.ofRatio false 1 2)
    let within (hours : Value) : Condition :=
      { field := .known .uniqueIps, operator := .gte, value := .scalar (.int 2)
        params := [("window_hours", hours)] }
    let window : Except Failure Binary64 := .ok .zero
    (Window.cutoff start half = .ok 34200000000 ∧
        Window.cutoff start (.int 2) = .ok 28800000000) ∧
      (∃ names, context.NamesFrom Session.ipAddress 34200000000 names ∧
        uniqueIps window context (within half) =
          .ok (counted (within half) "ips" half names)) ∧
      ∃ names names',
        uniqueIps window context (within half) =
          .ok (counted (within half) "ips" half names) ∧
        uniqueIps window context (within (.int 2)) =
          .ok (counted (within (.int 2)) "ips" (.int 2) names') ∧
        names ⊆ names' ∧ names.length ≤ names'.length := by
  intro moment start near far context half within window
  have hhalf : Window.cutoff start half = .ok 34200000000 := by decide +kernel
  have htwo : Window.cutoff start (.int 2) = .ok 28800000000 := by decide +kernel
  have hhours : Window.hours? half = some (1 / 2) := by decide +kernel
  have hips := (unique_countsNames window context).1
  refine ⟨⟨hhalf, htwo⟩, ?_, ?_⟩
  · obtain ⟨-, -, names, -, -, -, -, hnames⟩ := hips.counts (within half) half _ rfl hhalf
    exact ⟨names, hnames⟩
  · exact hips.mono (within half) (within (.int 2)) half (.int 2) _ _ (1 / 2) 2 rfl rfl hhalf htwo
      hhours rfl (by norm_num)

end Observation

end PlaybackRules
