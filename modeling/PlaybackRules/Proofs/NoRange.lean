import PlaybackRules.Proofs.RangeList

/-!
# Thresholds without a range

No address lies within a text that is no range (`IPv4.IsRange`), nor within a list that has none
among its members (`Observation.isInSomeRange_of_no_range`).  A text goes with the operators of
equality and a list with those of membership, and of each pair the second asks for the opposite of
the first (`Condition.rangeQuery?`).  So where there is no range at all it is the opposite that
holds: the condition matches under `neq` and under `not_in`, and under no other operator
(`Observation.ipInRange_of_no_range`).
-/

namespace PlaybackRules

namespace IPv4

variable {range : String}

/-- The text is a range: an address, a slash and a count of at most 32 bits. -/
def IsRange (range : String) : Prop := ∃ start count, WritesRange range start count ∧ count ≤ 32

theorem not_covers_of_not_isRange (h : ¬IsRange range) (address : IPv4) :
    ¬Covers range address := by
  rintro ⟨start, count, hwrites, hle, -⟩
  exact h ⟨start, count, hwrites, hle⟩

theorem not_isRange_of_slash_notMem (h : '/' ∉ range.toList) : ¬IsRange range := by
  rintro ⟨start, count, ⟨base, bits, hrange, -, -⟩, -⟩
  apply h
  rw [hrange]
  exact List.mem_append_right base (List.mem_cons_self ..)

/-- What stands before the first slash of a range is an address, and what stands after it a count of
at most 32 bits. -/
theorem isRange_iff_of_slash {base bits : List Char} (hrange : range.toList = base ++ '/' :: bits)
    (hslash : '/' ∉ base) :
    IsRange range ↔ (∃ start, Spells base start) ∧ ∃ count ≤ 32, WritesCount bits count := by
  constructor
  · rintro ⟨start, count, ⟨base', bits', hrange', hbase, hbits⟩, hle⟩
    obtain ⟨rfl, rfl⟩ := slash_inj (hrange.symm.trans hrange') hslash hbase.slash_notMem
    exact ⟨⟨start, hbase⟩, count, hle, hbits⟩
  · rintro ⟨⟨start, hbase⟩, count, hle, hbits⟩
    exact ⟨start, count, ⟨base, bits, hrange, hbase, hbits⟩, hle⟩

theorem bitCount?_eq_some_iff {cs : List Char} {count : Nat} :
    bitCount? cs = .ok (some count) ↔ WritesCount cs count := by
  refine ⟨fun h => ?_, bitCount?_of_writesCount⟩
  by_cases hwrites : ∃ other, WritesCount cs other
  · obtain ⟨other, hother⟩ := hwrites
    cases h.symm.trans (bitCount?_of_writesCount hother)
    exact hother
  · by_cases hlooks : LooksLikeCount cs
    · cases h.symm.trans (bitCount?_of_looksLikeCount hlooks (not_exists.1 hwrites))
    · cases h.symm.trans (bitCount?_of_not_looksLikeCount hlooks)

/-- Reads a text as a range. -/
def isRange (range : String) : Bool :=
  match range.toList.span (· ≠ '/') with
  | (base, _ :: bits) =>
    (ofChars? (Text.trim Text.isBlank base)).isSome &&
      match bitCount? bits with
      | .ok (some count) => count ≤ 32
      | _ => false
  | _ => false

theorem isRange_iff : isRange range = true ↔ IsRange range := by
  by_cases hslash : '/' ∈ range.toList
  · obtain ⟨base, bits, hrange, hbefore⟩ := List.eq_append_cons_of_mem hslash
    have hbase : (ofChars? (Text.trim Text.isBlank base)).isSome = true ↔
        ∃ start, Spells base start := by
      simp only [Option.isSome_iff_exists, ofChars?_trim_eq_some_iff]
    have hbits : (match bitCount? bits with
        | .ok (some count) => decide (count ≤ 32)
        | _ => false) = true ↔ ∃ count ≤ 32, WritesCount bits count := by
      simp only [← bitCount?_eq_some_iff]
      rcases bitCount? bits with _ | _ | count <;> simp
    rw [isRange_iff_of_slash hrange hbefore, isRange, hrange, span_of_notMem hbefore]
    simp only [Bool.and_eq_true, hbase, hbits]
  · have hrest : range.toList.dropWhile (· ≠ '/') = [] :=
      List.dropWhile_eq_nil_iff.2 (forall_ne_slash hslash)
    rw [isRange, List.span_eq_takeWhile_dropWhile, hrest]
    exact iff_of_false Bool.false_ne_true (not_isRange_of_slash_notMem hslash)

instance (range : String) : Decidable (IsRange range) := decidable_of_iff _ isRange_iff

end IPv4

namespace Observation

/-! ## The scan -/

section Scan

variable {ip : String} {address : IPv4}

/-- What neither covers the address nor fails is passed over, and so is what is no text. -/
theorem isInSomeRange_cons_of_passed {value : Value} (hip : IPv4.Spells ip.toList address)
    (hcovers : ∀ text, value = .str text → ¬IPv4.Covers text address)
    (hreadable : ∀ text, value = .str text → ¬IPv4.Unreadable text) (ranges : List Value) :
    isInSomeRange ip (value :: ranges) = isInSomeRange ip ranges := by
  cases value with
  | str text =>
      exact isInSomeRange_cons_of_neither hip (hcovers text rfl) (hreadable text rfl) ranges
  | _ => rfl

/-- Where there is no range the scan never matches, and it fails if a bit count cannot be read. -/
theorem isInSomeRange_of_no_range (hip : IPv4.Spells ip.toList address) {ranges : List Value}
    (h : ∀ text, .str text ∈ ranges → ¬IPv4.IsRange text) :
    isInSomeRange ip ranges ≠ .ok true ∧
      ∀ e, isInSomeRange ip ranges = .error e ↔
        e = .rangeBitCount ∧ ∃ text, .str text ∈ ranges ∧ IPv4.Unreadable text := by
  induction ranges with
  | nil => simp [isInSomeRange]
  | cons value ranges ih =>
      by_cases hfails : ∃ text, value = .str text ∧ IPv4.Unreadable text
      · obtain ⟨text, rfl, hunreadable⟩ := hfails
        rw [isInSomeRange_cons_of_unreadable hip hunreadable]
        refine ⟨by simp, fun e => ?_⟩
        rw [Except.error.injEq, eq_comm]
        exact (and_iff_left ⟨text, List.mem_cons_self .., hunreadable⟩).symm
      · have hreadable : ∀ text, value = .str text → ¬IPv4.Unreadable text :=
          fun text hvalue hunreadable => hfails ⟨text, hvalue, hunreadable⟩
        have hcovers : ∀ text, value = .str text → ¬IPv4.Covers text address := by
          rintro text rfl
          exact IPv4.not_covers_of_not_isRange (h text (List.mem_cons_self ..)) address
        rw [isInSomeRange_cons_of_passed hip hcovers hreadable]
        obtain ⟨htrue, herror⟩ := ih fun text hmem => h text (List.mem_cons_of_mem value hmem)
        refine ⟨htrue, fun e => (herror e).trans (and_congr_right' ?_)⟩
        simp only [List.mem_cons, or_and_right, exists_or, eq_comm (b := value), hfails, false_or]

end Scan

/-! ## The observation -/

section IpInRange

variable {context : Context} {condition : Condition} {address : IPv4}
  (hip : IPv4.Spells context.session.ipAddress.toList address)

include hip

/-- What a condition asks that names no range fails or is answered in the negative. -/
theorem ipInRange_of_query {query : RangeQuery} (hquery : condition.rangeQuery? = some query)
    (h : ∀ text, .str text ∈ query.ranges → ¬IPv4.IsRange text) :
    (∀ e, ipInRange context condition = .error e ↔
      e = .rangeBitCount ∧ ∃ text, .str text ∈ query.ranges ∧ IPv4.Unreadable text) ∧
    ∀ finding, ipInRange context condition = .ok finding → finding.matched = query.negated := by
  obtain ⟨htrue, herror⟩ := isInSomeRange_of_no_range hip h
  simp only [ipInRange_of_spells hip, hquery, ← herror]
  cases hscan : isInSomeRange context.session.ipAddress query.ranges with
  | error e => simp [Except.map]
  | ok within =>
      cases within with
      | true => exact absurd hscan htrue
      | false => simp [Except.map]

theorem ipInRange_of_no_query (hquery : condition.rangeQuery? = none) :
    ipInRange context condition =
      .ok { matched := false, actual := .str context.session.ipAddress } := by
  rw [ipInRange_of_spells hip, hquery]

/-- Of the two operators that go with a threshold the second matches where there is no range. -/
theorem ipInRange_of_operators {ranges : List Value} {positive negative : Operator}
    (hquery : condition.rangeQuery? =
      if condition.operator = positive ∨ condition.operator = negative then
        some { ranges, negated := decide (condition.operator = negative) }
      else none)
    (h : ∀ text, .str text ∈ ranges → ¬IPv4.IsRange text) :
    (∀ e, ipInRange context condition = .error e ↔ e = .rangeBitCount ∧
      (condition.operator = positive ∨ condition.operator = negative) ∧
        ∃ text, .str text ∈ ranges ∧ IPv4.Unreadable text) ∧
    ∀ finding, ipInRange context condition = .ok finding →
      (finding.matched = true ↔ condition.operator = negative) := by
  by_cases hop : condition.operator = positive ∨ condition.operator = negative
  · rw [if_pos hop] at hquery
    obtain ⟨herror, hmatched⟩ := ipInRange_of_query hip hquery h
    refine ⟨fun e => ?_, fun finding hfinding => ?_⟩
    · rw [herror, and_iff_right hop]
    · rw [hmatched finding hfinding, decide_eq_true_iff]
  · rw [if_neg hop] at hquery
    rw [ipInRange_of_no_query hip hquery]
    refine ⟨fun e => iff_of_false nofun fun herror => hop herror.2.1, ?_⟩
    rintro finding ⟨rfl⟩
    exact iff_of_false Bool.false_ne_true fun hnegative => hop (.inr hnegative)

/-- Let the threshold be a text that is no range, or a list that has none among its members.  The
condition fails if the operator goes with the threshold and a bit count cannot be read.  Otherwise
it matches under `neq` in the first case, under `not_in` in the second, and under nothing else. -/
theorem ipInRange_of_no_range :
    (∀ text, condition.threshold = .str text → ¬IPv4.IsRange text →
      (∀ e, ipInRange context condition = .error e ↔ e = .rangeBitCount ∧
        (condition.operator = .eq ∨ condition.operator = .neq) ∧ IPv4.Unreadable text) ∧
      ∀ finding, ipInRange context condition = .ok finding →
        (finding.matched = true ↔ condition.operator = .neq)) ∧
    ∀ ranges, condition.threshold = .list ranges →
      (∀ text, .str text ∈ ranges → ¬IPv4.IsRange text) →
      (∀ e, ipInRange context condition = .error e ↔ e = .rangeBitCount ∧
        (condition.operator = .isIn ∨ condition.operator = .notIn) ∧
          ∃ text, .str text ∈ ranges ∧ IPv4.Unreadable text) ∧
      ∀ finding, ipInRange context condition = .ok finding →
        (finding.matched = true ↔ condition.operator = .notIn) := by
  refine ⟨fun text hthreshold htext => ?_, fun ranges hthreshold hranges => ?_⟩
  · have hranges : ∀ other, .str other ∈ [Value.str text] → ¬IPv4.IsRange other := by
      simpa using htext
    simpa using ipInRange_of_operators hip (Condition.rangeQuery?_of_text hthreshold) hranges
  · exact ipInRange_of_operators hip (Condition.rangeQuery?_of_list hthreshold) hranges

end IpInRange

theorem exists_eq_ok {result : Except Failure Finding} (h : result.isOk = true) :
    ∃ finding, result = .ok finding := by
  cases result with
  | error e => cases h
  | ok finding => exact ⟨finding, rfl⟩

/-- A bit count past 32, and a list with a range of letters, an address alone and no text at all. -/
theorem ipInRange_of_no_range_longCount :
    let condition : Condition :=
      { field := .known .ipInRange, operator := .neq, value := .scalar (.str "192.168.1.0/33") }
    let listed : Condition := { condition with
      operator := .notIn
      value := .list [.str "192.168.1.0/abc", .str "192.168.1.50", .null] }
    let context : Context :=
      { Context.lone with session := { Context.lone.session with ipAddress := "192.168.1.50" } }
    (∃ address, IPv4.Spells context.session.ipAddress.toList address) ∧
    (¬IPv4.IsRange "192.168.1.0/33" ∧ ∃ finding,
      ipInRange context condition = .ok finding ∧ finding.matched = true) ∧
    (∀ text, .str text ∈ [Value.str "192.168.1.0/abc", .str "192.168.1.50", .null] →
      ¬IPv4.IsRange text) ∧
    ∃ finding, ipInRange context listed = .ok finding ∧ finding.matched = true := by
  intro condition listed context
  have hip : IPv4.Spells context.session.ipAddress.toList ⟨0xC0A80132⟩ :=
    IPv4.parse?_eq_some_iff.1 (by decide +kernel)
  have hlong : ¬IPv4.IsRange "192.168.1.0/33" := by decide +kernel
  have hnone : ∀ text, .str text ∈ [Value.str "192.168.1.0/abc", .str "192.168.1.50", .null] →
      ¬IPv4.IsRange text := by
    simp only [List.mem_cons, Value.str.injEq, reduceCtorEq, List.not_mem_nil, or_false]
    rintro text (rfl | rfl) <;> decide +kernel
  obtain ⟨found, hfound⟩ : ∃ finding, ipInRange context condition = .ok finding :=
    exists_eq_ok (by decide +kernel)
  obtain ⟨foundListed, hfoundListed⟩ : ∃ finding, ipInRange context listed = .ok finding :=
    exists_eq_ok (by decide +kernel)
  obtain ⟨htext, -⟩ := @ipInRange_of_no_range context condition _ hip
  obtain ⟨-, hlist⟩ := @ipInRange_of_no_range context listed _ hip
  refine ⟨⟨_, hip⟩, ⟨hlong, ?_⟩, hnone, ?_⟩
  · exact ⟨found, hfound, ((htext _ rfl hlong).2 found hfound).2 rfl⟩
  · exact ⟨foundListed, hfoundListed, ((hlist _ rfl hnone).2 foundListed hfoundListed).2 rfl⟩

/-- A text that is no range, also one of the other kind of address, is matched under `neq`, and so
is a list of such texts under `not_in`. -/
theorem ipInRange_not_failsClosed :
    let condition : Condition := { field := .known .ipInRange, operator := .neq }
    let context : Context :=
      { Context.lone with session := { Context.lone.session with ipAddress := "192.168.1.50" } }
    let matched (operator : Operator) (value : Threshold) :=
      (ipInRange context { condition with operator, value }).map (·.matched)
    (∀ range ∈ ["192.168.1.0/33", "2001:db8::/32", "192.168.1.50"],
      ¬IPv4.IsRange range ∧ matched .neq (.scalar (.str range)) = .ok true) ∧
    matched .notIn (.list [.str "192.168.1.0/33", .str "2001:db8::/32"]) = .ok true := by
  decide +kernel

end Observation

end PlaybackRules
