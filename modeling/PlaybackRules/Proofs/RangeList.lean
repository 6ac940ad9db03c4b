import PlaybackRules.Observation.Attributes
import PlaybackRules.Proofs.AddressRange
import PlaybackRules.Proofs.Verdict

/-!
# Lists of address ranges

A condition on ranges asks whether the session's address lies within one of them, or within none
(`Condition.rangeQuery?`).  The ranges of a list are tried in order.  One that covers the address is
a match and one that cannot be read is a failure, whichever comes first, and what follows is not
tried (`Observation.isInSomeRange_eq_true_iff`, `Observation.isInSomeRange_eq_error_iff`).  So the
order of a list matters if and only if it has both (`Observation.ipInRange_perm_iff`).
-/

namespace PlaybackRules

/-- A member of one kind comes before all of another. -/
def ComesFirst {α : Type} (p q : α → Prop) (xs : List α) : Prop :=
  ∃ before x after, xs = before ++ x :: after ∧ p x ∧ ∀ y ∈ before, ¬q y

section ComesFirst

variable {α : Type} {p q : α → Prop}

theorem not_comesFirst_nil : ¬ComesFirst p q [] := by
  rintro ⟨before, x, after, h, -, -⟩
  exact absurd h.symm (List.append_ne_nil_of_right_ne_nil before (List.cons_ne_nil x after))

theorem comesFirst_cons {x : α} {xs : List α} :
    ComesFirst p q (x :: xs) ↔ p x ∨ ¬q x ∧ ComesFirst p q xs := by
  constructor
  · rintro ⟨before, y, after, h, hy, hbefore⟩
    cases before with
    | nil =>
        obtain ⟨rfl, rfl⟩ := List.cons.inj h
        exact .inl hy
    | cons z before =>
        obtain ⟨rfl, rfl⟩ := List.cons.inj h
        obtain ⟨hz, hbefore⟩ := List.forall_mem_cons.1 hbefore
        exact .inr ⟨hz, before, y, after, rfl, hy, hbefore⟩
  · rintro (hx | ⟨hx, before, y, after, rfl, hy, hbefore⟩)
    · exact ⟨[], x, xs, rfl, hx, nofun⟩
    · exact ⟨x :: before, y, after, rfl, hy, List.forall_mem_cons.2 ⟨hx, hbefore⟩⟩

theorem ComesFirst.exists {xs : List α} (h : ComesFirst p q xs) : ∃ x ∈ xs, p x := by
  obtain ⟨before, x, after, rfl, hx, -⟩ := h
  exact ⟨x, List.mem_append_right before (List.mem_cons_self ..), hx⟩

/-- Which kind comes first matters only if there are both. -/
theorem comesFirst_iff {xs : List α} (h : ¬((∃ x ∈ xs, p x) ∧ ∃ x ∈ xs, q x)) :
    ComesFirst p q xs ↔ ∃ x ∈ xs, p x := by
  refine ⟨ComesFirst.exists, fun hp => ?_⟩
  have hq : ¬∃ x ∈ xs, q x := fun hq => h ⟨hp, hq⟩
  obtain ⟨x, hmem, hx⟩ := hp
  obtain ⟨before, after, rfl⟩ := List.append_of_mem hmem
  exact ⟨before, x, after, rfl, hx,
    fun y hy hqy => hq ⟨y, List.mem_append_left (x :: after) hy, hqy⟩⟩

end ComesFirst

/-! ## What a condition asks of ranges -/

/-- Whether an address is to lie within one of some ranges, or within none. -/
structure RangeQuery where
  ranges : List Value
  negated : Bool

namespace Condition

/-- What a condition asks of ranges; nothing, if its operator does not go with its threshold. -/
def rangeQuery? (condition : Condition) : Option RangeQuery :=
  match condition.operator, condition.threshold with
  | .eq, .str range => some { ranges := [.str range], negated := false }
  | .neq, .str range => some { ranges := [.str range], negated := true }
  | .isIn, .list ranges => some { ranges, negated := false }
  | .notIn, .list ranges => some { ranges, negated := true }
  | _, _ => none

variable {condition : Condition}

theorem rangeQuery?_of_text {text : String} (h : condition.threshold = .str text) :
    condition.rangeQuery? =
      if condition.operator = .eq ∨ condition.operator = .neq then
        some { ranges := [.str text], negated := decide (condition.operator = .neq) }
      else none := by
  unfold rangeQuery?
  rw [h]
  cases condition.operator <;> rfl

theorem rangeQuery?_of_list {ranges : List Value} (h : condition.threshold = .list ranges) :
    condition.rangeQuery? =
      if condition.operator = .isIn ∨ condition.operator = .notIn then
        some { ranges, negated := decide (condition.operator = .notIn) }
      else none := by
  unfold rangeQuery?
  rw [h]
  cases condition.operator <;> rfl

/-- The condition with a list of texts as its threshold. -/
def withRanges (condition : Condition) (ranges : List String) : Condition :=
  { condition with value := .list (ranges.map Scalar.str) }

end Condition

namespace Observation

/-! ## The scan -/

section Scan

variable {ip : String} {address : IPv4} {range : String}

theorem isInSomeRange_singleton (range : String) :
    isInSomeRange ip [.str range] = IPv4.isWithin ip range := by
  rw [isInSomeRange, IPv4.valueWithin]
  cases IPv4.isWithin ip range with
  | error e => rfl
  | ok within => cases within <;> rfl

theorem isInSomeRange_cons_of_covers (hip : IPv4.Spells ip.toList address)
    (h : IPv4.Covers range address) (ranges : List Value) :
    isInSomeRange ip (.str range :: ranges) = .ok true := by
  rw [isInSomeRange, IPv4.valueWithin, IPv4.isWithin_of_covers hip h]
  rfl

theorem isInSomeRange_cons_of_unreadable (hip : IPv4.Spells ip.toList address)
    (h : IPv4.Unreadable range) (ranges : List Value) :
    isInSomeRange ip (.str range :: ranges) = .error .rangeBitCount := by
  rw [isInSomeRange, IPv4.valueWithin, IPv4.isWithin_of_unreadable hip h]
  rfl

theorem isInSomeRange_cons_of_neither (hip : IPv4.Spells ip.toList address)
    (hcovers : ¬IPv4.Covers range address) (hreadable : ¬IPv4.Unreadable range)
    (ranges : List Value) :
    isInSomeRange ip (.str range :: ranges) = isInSomeRange ip ranges := by
  have hfalse : IPv4.isWithin ip range = .ok false := by
    refine IPv4.isWithin_of_neither fun address' hip' => ?_
    obtain rfl := hip'.unique hip
    exact ⟨hcovers, hreadable⟩
  rw [isInSomeRange, IPv4.valueWithin, hfalse]
  rfl

/-- The scan matches if a range that covers the address comes before all that cannot be read. -/
theorem isInSomeRange_eq_true_iff (hip : IPv4.Spells ip.toList address) : ∀ {ranges : List String},
    isInSomeRange ip (ranges.map .str) = .ok true ↔
      ComesFirst (IPv4.Covers · address) IPv4.Unreadable ranges
  | [] => iff_of_false nofun not_comesFirst_nil
  | range :: ranges => by
      rw [comesFirst_cons, List.map_cons]
      by_cases hcovers : IPv4.Covers range address
      · exact iff_of_true (isInSomeRange_cons_of_covers hip hcovers _) (.inl hcovers)
      by_cases hreadable : IPv4.Unreadable range
      · rw [isInSomeRange_cons_of_unreadable hip hreadable]
        exact iff_of_false nofun (not_or.2 ⟨hcovers, fun h => h.1 hreadable⟩)
      · rw [isInSomeRange_cons_of_neither hip hcovers hreadable, isInSomeRange_eq_true_iff hip]
        simp only [hcovers, hreadable, false_or, not_false_eq_true, true_and]

/-- The scan fails if a range that cannot be read comes before all that cover the address. -/
theorem isInSomeRange_eq_error_iff (hip : IPv4.Spells ip.toList address) {e : Failure} :
    ∀ {ranges : List String}, isInSomeRange ip (ranges.map .str) = .error e ↔
      e = .rangeBitCount ∧ ComesFirst IPv4.Unreadable (IPv4.Covers · address) ranges
  | [] => iff_of_false nofun fun h => not_comesFirst_nil h.2
  | range :: ranges => by
      rw [comesFirst_cons, List.map_cons]
      by_cases hcovers : IPv4.Covers range address
      · have hreadable := hcovers.not_unreadable
        rw [isInSomeRange_cons_of_covers hip hcovers]
        exact iff_of_false nofun fun h => (not_or.2 ⟨hreadable, fun h => h.1 hcovers⟩) h.2
      by_cases hreadable : IPv4.Unreadable range
      · rw [isInSomeRange_cons_of_unreadable hip hreadable]
        simp only [hreadable, true_or, and_true, Except.error.injEq, eq_comm]
      · rw [isInSomeRange_cons_of_neither hip hcovers hreadable, isInSomeRange_eq_error_iff hip]
        simp only [hcovers, hreadable, false_or, not_false_eq_true, true_and]

theorem isInSomeRange_eq_false_iff (hip : IPv4.Spells ip.toList address) :
    ∀ {ranges : List String}, isInSomeRange ip (ranges.map .str) = .ok false ↔
      ∀ range ∈ ranges, ¬IPv4.Covers range address ∧ ¬IPv4.Unreadable range
  | [] => iff_of_true rfl nofun
  | range :: ranges => by
      rw [List.forall_mem_cons, List.map_cons]
      by_cases hcovers : IPv4.Covers range address
      · rw [isInSomeRange_cons_of_covers hip hcovers]
        exact iff_of_false nofun fun h => h.1.1 hcovers
      by_cases hreadable : IPv4.Unreadable range
      · rw [isInSomeRange_cons_of_unreadable hip hreadable]
        exact iff_of_false nofun fun h => h.1.2 hreadable
      · rw [isInSomeRange_cons_of_neither hip hcovers hreadable, isInSomeRange_eq_false_iff hip]
        simp only [hcovers, hreadable, not_false_eq_true, and_self, true_and]

/-- A list without one kind or the other is looked through alike in any order. -/
theorem isInSomeRange_perm (hip : IPv4.Spells ip.toList address) {ranges ranges' : List String}
    (h : ¬((∃ range ∈ ranges, IPv4.Unreadable range) ∧ ∃ range ∈ ranges, IPv4.Covers range address))
    (hperm : ranges'.Perm ranges) :
    isInSomeRange ip (ranges'.map .str) = isInSomeRange ip (ranges.map .str) := by
  have hmem : ∀ P : String → Prop, (∃ range ∈ ranges', P range) ↔ ∃ range ∈ ranges, P range :=
    fun P => by simp only [hperm.mem_iff]
  have h' : ¬((∃ range ∈ ranges', IPv4.Unreadable range) ∧
      ∃ range ∈ ranges', IPv4.Covers range address) := by
    rwa [hmem, hmem]
  cases hscan : isInSomeRange ip (ranges.map .str) with
  | error e =>
      rw [isInSomeRange_eq_error_iff hip, comesFirst_iff h] at hscan
      rw [isInSomeRange_eq_error_iff hip, comesFirst_iff h', hmem]
      exact hscan
  | ok matched =>
      cases matched with
      | false =>
          rw [isInSomeRange_eq_false_iff hip] at hscan ⊢
          exact fun range hrange => hscan range (hperm.mem_iff.1 hrange)
      | true =>
          rw [isInSomeRange_eq_true_iff hip, comesFirst_iff (h ∘ And.symm)] at hscan
          rw [isInSomeRange_eq_true_iff hip, comesFirst_iff (h' ∘ And.symm), hmem]
          exact hscan

end Scan

/-! ## The observation -/

section IpInRange

variable {context : Context} {condition : Condition} {address : IPv4}

/-- From an IPv4 address the observation is the answer to what the condition asks. -/
theorem ipInRange_of_spells (hip : IPv4.Spells context.session.ipAddress.toList address) :
    ipInRange context condition =
      match condition.rangeQuery? with
      | none => .ok { matched := false, actual := .str context.session.ipAddress }
      | some query => (isInSomeRange context.session.ipAddress query.ranges).map fun within =>
          { matched := within != query.negated, actual := .str context.session.ipAddress } := by
  have hparse := IPv4.parse?_eq_some_iff.2 hip
  have hne : (context.session.ipAddress == "") = false := by
    refine beq_false_of_ne fun hempty => ?_
    rw [hempty] at hparse
    cases hparse
  unfold ipInRange Condition.rangeQuery?
  simp only [hne, hparse, Option.isNone_some, Bool.false_eq_true, if_false]
  split
  case h_1 ranges hop hthreshold | h_2 ranges hop hthreshold =>
    simp only [hop, hthreshold]
    rcases isInSomeRange context.session.ipAddress ranges with _ | _ | _ <;> rfl
  case h_3 range hop hthreshold | h_4 range hop hthreshold =>
    simp only [hop, hthreshold, isInSomeRange_singleton]
    rcases IPv4.isWithin context.session.ipAddress range with _ | _ | _ <;> rfl
  case h_5 => simp_all [pure, Except.pure]

theorem ipInRange_withRanges (hip : IPv4.Spells context.session.ipAddress.toList address)
    (hop : condition.operator = .isIn) (ranges : List String) :
    ipInRange context (condition.withRanges ranges) =
      (isInSomeRange context.session.ipAddress (ranges.map .str)).map fun matched =>
        { matched, actual := .str context.session.ipAddress } := by
  have hthreshold : (condition.withRanges ranges).threshold = .list (ranges.map .str) :=
    congrArg Value.list (List.map_map ..)
  have hop' : (condition.withRanges ranges).operator = .isIn := hop
  rw [ipInRange_of_spells hip, Condition.rangeQuery?, hop', hthreshold]
  simp only [Bool.bne_false]

theorem ipInRange_eq_error_iff (hip : IPv4.Spells context.session.ipAddress.toList address)
    (hop : condition.operator = .isIn) {ranges : List String} {e : Failure} :
    ipInRange context (condition.withRanges ranges) = .error e ↔
      e = .rangeBitCount ∧ ComesFirst IPv4.Unreadable (IPv4.Covers · address) ranges := by
  rw [ipInRange_withRanges hip hop, ← isInSomeRange_eq_error_iff hip]
  cases isInSomeRange context.session.ipAddress (ranges.map .str) with
  | error e' => simp only [Except.map, Except.error.injEq]
  | ok matched => exact iff_of_false nofun nofun

theorem matched_ipInRange_iff (hip : IPv4.Spells context.session.ipAddress.toList address)
    (hop : condition.operator = .isIn) {ranges : List String} {finding : Finding}
    (h : ipInRange context (condition.withRanges ranges) = .ok finding) :
    finding.matched = true ↔ ∃ range ∈ ranges, IPv4.Covers range address := by
  rw [ipInRange_withRanges hip hop] at h
  cases hscan : isInSomeRange context.session.ipAddress (ranges.map .str) with
  | error e =>
      rw [hscan] at h
      cases h
  | ok matched =>
      rw [hscan] at h
      obtain rfl := Except.ok.inj h
      cases matched with
      | true => exact iff_of_true rfl ((isInSomeRange_eq_true_iff hip).1 hscan).exists
      | false =>
          refine iff_of_false Bool.false_ne_true ?_
          rintro ⟨range, hmem, hcovers⟩
          exact ((isInSomeRange_eq_false_iff hip).1 hscan range hmem).1 hcovers

/-- The finding is the same in any order of the list unless that has a range that cannot be read and
one that covers the session's address. -/
theorem ipInRange_perm_iff (hip : IPv4.Spells context.session.ipAddress.toList address)
    (hop : condition.operator = .isIn) (ranges : List String) :
    (∀ ranges', ranges'.Perm ranges → ipInRange context (condition.withRanges ranges') =
        ipInRange context (condition.withRanges ranges)) ↔
      ¬((∃ range ∈ ranges, IPv4.Unreadable range) ∧
        ∃ range ∈ ranges, IPv4.Covers range address) := by
  constructor
  · rintro h ⟨⟨unreadable, hmem, hunreadable⟩, covering, hmem', hcovers⟩
    have hfails := h _ (List.perm_cons_erase hmem).symm
    have hmatches := h _ (List.perm_cons_erase hmem').symm
    rw [ipInRange_withRanges hip hop, List.map_cons,
      isInSomeRange_cons_of_unreadable hip hunreadable] at hfails
    rw [ipInRange_withRanges hip hop, List.map_cons,
      isInSomeRange_cons_of_covers hip hcovers] at hmatches
    cases hfails.trans hmatches.symm
  · intro h ranges' hperm
    rw [ipInRange_withRanges hip hop, ipInRange_withRanges hip hop, isInSomeRange_perm hip h hperm]

/-- A range whose bit count is made of digits but is no numeral makes the containment test of any
address fail.  The membership of a session's IPv4 address in a list of ranges fails if such a range
comes before all that cover the address; if it does not fail, it says whether some range covers the
address.  So the order of the list matters exactly if there are ranges of both kinds. -/
theorem ipInRange_isIn (hip : IPv4.Spells context.session.ipAddress.toList address)
    (hop : condition.operator = .isIn) :
    (∀ ip range, (∃ answer, IPv4.isWithin ip range = .ok answer) ↔
      ¬((∃ address, IPv4.Spells ip.toList address) ∧ IPv4.Unreadable range)) ∧
    (∀ ranges e, ipInRange context (condition.withRanges ranges) = .error e ↔
      e = .rangeBitCount ∧ ComesFirst IPv4.Unreadable (IPv4.Covers · address) ranges) ∧
    (∀ ranges finding, ipInRange context (condition.withRanges ranges) = .ok finding →
      (finding.matched = true ↔ ∃ range ∈ ranges, IPv4.Covers range address)) ∧
    ∀ ranges, (∀ ranges', ranges'.Perm ranges →
        ipInRange context (condition.withRanges ranges') =
          ipInRange context (condition.withRanges ranges)) ↔
      ¬((∃ range ∈ ranges, IPv4.Unreadable range) ∧
        ∃ range ∈ ranges, IPv4.Covers range address) :=
  ⟨fun _ _ => IPv4.exists_isWithin_iff, fun _ _ => ipInRange_eq_error_iff hip hop,
    fun _ _ => matched_ipInRange_iff hip hop, ipInRange_perm_iff hip hop⟩

end IpInRange

/-- A superscript two is a digit and yet no bit count. -/
theorem ipInRange_isIn_superscript :
    let condition : Condition := { field := .known .ipInRange, operator := .isIn }
    let context : Context :=
      { Context.lone with session := { Context.lone.session with ipAddress := "192.168.1.50" } }
    (∀ e, ipInRange context (condition.withRanges ["10.0.0.0/8", "192.168.1.0/²"]) = .error e ↔
      e = .rangeBitCount) ∧
    ∃ finding, ipInRange context
        (condition.withRanges ["10.0.0.0/8", "192.168.1.7/24", "192.168.1.0/²"]) = .ok finding ∧
      finding.matched = true := by
  intro condition context
  have hip : IPv4.Spells context.session.ipAddress.toList ⟨0xC0A80132⟩ :=
    IPv4.parse?_eq_some_iff.1 (by decide +kernel)
  have hunreadable : IPv4.Unreadable "192.168.1.0/²" := by
    have herror : IPv4.isWithin "192.168.1.50" "192.168.1.0/²" = .error .rangeBitCount := by
      decide +kernel
    exact (IPv4.isWithin_eq_error_iff.1 herror).2.2
  have hcovers : IPv4.Covers "192.168.1.7/24" ⟨0xC0A80132⟩ := by
    have htrue : IPv4.isWithin "192.168.1.50" "192.168.1.7/24" = .ok true := by decide +kernel
    obtain ⟨address, hip', hcovers⟩ := IPv4.isWithin_eq_true_iff.1 htrue
    rwa [← hip'.unique hip]
  have hother : ¬IPv4.Covers "10.0.0.0/8" ⟨0xC0A80132⟩ := fun h => by
    have hfalse : IPv4.isWithin "192.168.1.50" "10.0.0.0/8" = .ok false := by decide +kernel
    cases hfalse.symm.trans (IPv4.isWithin_of_covers hip h)
  obtain ⟨-, herror, hmatched, -⟩ := ipInRange_isIn hip (rfl : condition.operator = .isIn)
  refine ⟨fun e => (herror _ e).trans (and_iff_left ?_), ?_⟩
  · exact ⟨["10.0.0.0/8"], "192.168.1.0/²", [], rfl, hunreadable,
      List.forall_mem_singleton.2 hother⟩
  · cases hfinding : ipInRange context
        (condition.withRanges ["10.0.0.0/8", "192.168.1.7/24", "192.168.1.0/²"]) with
    | error e =>
        have hok : (ipInRange context (condition.withRanges
            ["10.0.0.0/8", "192.168.1.7/24", "192.168.1.0/²"])).isOk = true := by
          decide +kernel
        rw [hfinding] at hok
        cases hok
    | ok finding =>
        exact ⟨finding, rfl, (hmatched _ finding hfinding).2 ⟨"192.168.1.7/24", by decide, hcovers⟩⟩

/-- The same two ranges fail in one order and match in the other. -/
theorem ipInRange_not_total :
    let condition : Condition := { field := .known .ipInRange, operator := .isIn }
    let context : Context :=
      { Context.lone with session := { Context.lone.session with ipAddress := "192.168.1.50" } }
    let matched (ranges : List String) :=
      (ipInRange context (condition.withRanges ranges)).map (·.matched)
    IPv4.isWithin "192.168.1.50" "192.168.1.0/²" = .error .rangeBitCount ∧
      matched ["192.168.1.0/²", "192.168.1.0/24"] = .error .rangeBitCount ∧
      matched ["192.168.1.0/24", "192.168.1.0/²"] = .ok true := by
  decide +kernel

end Observation

end PlaybackRules
