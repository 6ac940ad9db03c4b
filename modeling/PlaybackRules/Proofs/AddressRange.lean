import Mathlib.Data.List.TakeDrop
import PlaybackRules.Address.Range
import PlaybackRules.Proofs.WrittenAddress

/-!
# Address ranges

A written range covers the addresses that share its leading bits (`IPv4.Covers`).  To ask whether an
address lies within one answers just that, or fails where the bit count is made of digits but is no
numeral (`IPv4.isWithin_eq_true_iff`, `IPv4.isWithin_eq_error_iff`).  With a bit count in ASCII
digits the answer is exact (`IPv4.isWithin_ascii`).
-/

namespace PlaybackRules

namespace IPv4

/-! ## Bit counts -/

/-- The text is a decimal numeral of any script, of a length that is read, with white space around
it or without. -/
def WritesCount (cs : List Char) (count : Nat) : Prop :=
  ∃ digits values, Text.Padded Text.isWhiteSpace digits cs ∧ digits ≠ [] ∧
    digits.length ≤ Numeral.digitLimit ∧
    List.Forall₂ (fun c value => Text.decimalValue? c = some value) digits values ∧
    count = Text.ofDigits values

/-- The text is made of digits, decimal or not, with blanks around them or without. -/
def LooksLikeCount (cs : List Char) : Prop :=
  ∃ digits, Text.Padded Text.isBlank digits cs ∧ digits ≠ [] ∧
    ∀ c ∈ digits, Text.isDigit c = true

theorem isDigit_of_forall₂ {digits : List Char} {values : List Nat}
    (h : List.Forall₂ (fun c value => Text.decimalValue? c = some value) digits values) :
    ∀ c ∈ digits, Text.isDigit c = true := by
  induction h with
  | nil => exact fun _ hc => absurd hc List.not_mem_nil
  | cons hvalue _ ih => exact List.forall_mem_cons.2 ⟨Text.isDigit_of_decimalValue? hvalue, ih⟩

section BitCount

variable {cs digits : List Char}

/-- The digits of what looks like a bit count are what is left of it. -/
theorem trim_isBlank_eq_iff (hne : digits ≠ []) (hdigits : ∀ c ∈ digits, Text.isDigit c = true) :
    Text.trim Text.isBlank cs = digits ↔ Text.Padded Text.isBlank digits cs :=
  Text.trim_eq_iff (fun c hc => Text.isBlank_of_isDigit (hdigits c hc)) hne

theorem trim_isWhiteSpace_eq_iff (hne : digits ≠ [])
    (hdigits : ∀ c ∈ digits, Text.isDigit c = true) :
    Text.trim Text.isWhiteSpace cs = digits ↔ Text.Padded Text.isWhiteSpace digits cs := by
  refine Text.trim_eq_iff (fun c hc => Bool.eq_false_iff.2 fun hspace => ?_) hne
  have hblank := Text.isBlank_of_isDigit (hdigits c hc)
  rw [Text.isBlank_of_isWhiteSpace hspace] at hblank
  cases hblank

/-- What is not made of digits is no bit count. -/
theorem bitCount?_of_not_looksLikeCount (h : ¬LooksLikeCount cs) : bitCount? cs = .ok none := by
  refine if_pos ?_
  rw [Bool.or_eq_true, List.isEmpty_iff, Bool.not_eq_true', Bool.eq_false_iff, Ne,
    List.all_eq_true]
  by_contra hshape
  obtain ⟨hne, hdigits⟩ := not_or.1 hshape
  exact h ⟨_, Text.padded_trim Text.isBlank cs, hne, not_not.1 hdigits⟩

/-- What is made of digits is read as a numeral. -/
theorem bitCount?_of_padded (hpadded : Text.Padded Text.isBlank digits cs) (hne : digits ≠ [])
    (hdigits : ∀ c ∈ digits, Text.isDigit c = true) : bitCount? cs =
      if digits.length > Numeral.digitLimit || digits != Text.trim Text.isWhiteSpace cs then
        .error .rangeBitCount
      else
        match digits.mapM Text.decimalValue? with
        | some values => .ok (some (Text.ofDigits values))
        | none => .error .rangeBitCount := by
  have hshape : ¬(digits.isEmpty || !digits.all Text.isDigit) = true := by
    rw [Bool.not_eq_true, Bool.or_eq_false_iff, List.isEmpty_eq_false_iff, Bool.not_eq_false',
      List.all_eq_true]
    exact ⟨hne, hdigits⟩
  obtain rfl := (trim_isBlank_eq_iff hne hdigits).2 hpadded
  exact if_neg hshape

theorem bitCount?_of_writesCount {count : Nat} (h : WritesCount cs count) :
    bitCount? cs = .ok (some count) := by
  obtain ⟨digits, values, hpadded, hne, hlength, hvalues, rfl⟩ := h
  have hdigits := isDigit_of_forall₂ hvalues
  have hfits : ¬(digits.length > Numeral.digitLimit ||
      digits != Text.trim Text.isWhiteSpace cs) = true := by
    rw [(trim_isWhiteSpace_eq_iff hne hdigits).2 hpadded, Bool.or_eq_true, decide_eq_true_iff,
      bne_self_eq_false, not_or]
    exact ⟨Nat.not_lt.2 hlength, nofun⟩
  rw [bitCount?_of_padded (hpadded.mono fun _ => Text.isBlank_of_isWhiteSpace) hne hdigits,
    if_neg hfits, Text.mapM_eq_some_iff.2 hvalues]

theorem bitCount?_of_looksLikeCount (hlooks : LooksLikeCount cs)
    (hwrites : ∀ count, ¬WritesCount cs count) : bitCount? cs = .error .rangeBitCount := by
  obtain ⟨digits, hpadded, hne, hdigits⟩ := hlooks
  rw [bitCount?_of_padded hpadded hne hdigits]
  split
  case isTrue => rfl
  case isFalse hfits =>
      rw [Bool.or_eq_true, decide_eq_true_iff, bne_iff_ne, not_or, not_not] at hfits
      obtain ⟨hlength, htrim⟩ := hfits
      cases hvalues : digits.mapM Text.decimalValue? with
      | none => rfl
      | some values =>
          exact absurd ⟨digits, values, (trim_isWhiteSpace_eq_iff hne hdigits).1 htrim.symm, hne,
            Nat.not_lt.1 hlength, Text.mapM_eq_some_iff.1 hvalues, rfl⟩ (hwrites _)

end BitCount

theorem WritesCount.unique {cs : List Char} {count count' : Nat} (h : WritesCount cs count)
    (h' : WritesCount cs count') : count = count' :=
  Option.some.inj (Except.ok.inj
    ((bitCount?_of_writesCount h).symm.trans (bitCount?_of_writesCount h')))

/-! ## Ranges -/

/-- The text is an address, a slash and a bit count. -/
def WritesRange (range : String) (start : IPv4) (count : Nat) : Prop :=
  ∃ base bits, range.toList = base ++ '/' :: bits ∧ Spells base start ∧ WritesCount bits count

/-- The text is a range that holds the address: they share the leading bits. -/
def Covers (range : String) (ip : IPv4) : Prop :=
  ∃ start count, WritesRange range start count ∧ count ≤ 32 ∧
    ∀ i < count, ip.bits.getMsbD i = start.bits.getMsbD i

/-- The text is an address, a slash, and digits that are no bit count. -/
def Unreadable (range : String) : Prop :=
  ∃ base bits, range.toList = base ++ '/' :: bits ∧ (∃ start, Spells base start) ∧
    LooksLikeCount bits ∧ ∀ count, ¬WritesCount bits count

theorem agree_iff {count : Nat} {a b : IPv4} (h : count ≤ 32) :
    agree count a b = true ↔ ∀ i < count, a.bits.getMsbD i = b.bits.getMsbD i := by
  rw [agree, beq_iff_eq]
  constructor
  · intro hshift i hi
    have hbit := congrArg (BitVec.getLsbD · (count - 1 - i)) hshift
    simp only [BitVec.getLsbD_ushiftRight] at hbit
    have hplace : 32 - count + (count - 1 - i) = 32 - 1 - i := by omega
    rw [hplace] at hbit
    rw [BitVec.getMsbD_eq_getLsbD, BitVec.getMsbD_eq_getLsbD, hbit]
  · intro hbits
    refine BitVec.eq_of_getLsbD_eq fun i _ => ?_
    rw [BitVec.getLsbD_ushiftRight, BitVec.getLsbD_ushiftRight]
    by_cases hi : i < count
    · have hbit := hbits (count - 1 - i) (by omega)
      have hplace : 32 - 1 - (count - 1 - i) = 32 - count + i := by omega
      rw [BitVec.getMsbD_eq_getLsbD, BitVec.getMsbD_eq_getLsbD, hplace] at hbit
      simpa [show count - 1 - i < 32 by omega] using hbit
    · have hpast : 32 ≤ 32 - count + i := by omega
      rw [BitVec.getLsbD_of_ge _ _ hpast, BitVec.getLsbD_of_ge _ _ hpast]

section IsWithin

variable {ip range : String} {address start : IPv4} {base bits : List Char}

theorem forall_ne_slash (h : '/' ∉ base) : ∀ c ∈ base, decide (c ≠ '/') = true :=
  fun _ hc => decide_eq_true (ne_of_mem_of_not_mem hc h)

theorem span_of_notMem (h : '/' ∉ base) :
    (base ++ '/' :: bits).span (· ≠ '/') = (base, '/' :: bits) := by
  rw [List.span_eq_takeWhile_dropWhile, List.takeWhile_append_of_pos (forall_ne_slash h),
    List.dropWhile_append_of_pos (forall_ne_slash h)]
  exact congrArg₂ Prod.mk (List.append_nil base) rfl

/-- A text splits in one way at its first slash. -/
theorem slash_inj {base' bits' : List Char} (h : base ++ '/' :: bits = base' ++ '/' :: bits')
    (hbase : '/' ∉ base) (hbase' : '/' ∉ base') : base = base' ∧ bits = bits' := by
  have hspan := congrArg (List.span (· ≠ '/')) h
  rw [span_of_notMem hbase, span_of_notMem hbase'] at hspan
  obtain ⟨hfront, hback⟩ := Prod.mk.inj hspan
  exact ⟨hfront, (List.cons.inj hback).2⟩

/-- A range that covers an address is read. -/
theorem Covers.not_unreadable (h : Covers range address) : ¬Unreadable range := by
  rintro ⟨base', bits', hrange', ⟨start', hbase'⟩, -, hwrites⟩
  obtain ⟨start, count, ⟨base, bits, hrange, hbase, hcount⟩, -, -⟩ := h
  obtain ⟨-, rfl⟩ := slash_inj (hrange.symm.trans hrange') hbase.slash_notMem hbase'.slash_notMem
  exact hwrites count hcount

/-- Nothing lies within a text without a slash. -/
theorem isWithin_of_slash_notMem (h : '/' ∉ range.toList) : isWithin ip range = .ok false := by
  have hrest : range.toList.dropWhile (· ≠ '/') = [] :=
    List.dropWhile_eq_nil_iff.2 (forall_ne_slash h)
  rw [isWithin, List.span_eq_takeWhile_dropWhile, hrest]
  cases parse? ip <;> rfl

/-- What is no address lies nowhere. -/
theorem isWithin_of_not_spells (h : ∀ address, ¬Spells ip.toList address) :
    isWithin ip range = .ok false := by
  have hparse : parse? ip = none :=
    Option.eq_none_iff_forall_ne_some.2 fun address hsome => h address (parse?_eq_some_iff.1 hsome)
  rw [isWithin, hparse]

/-- Nothing lies within what does not begin with an address. -/
theorem isWithin_of_base_not_spells (hrange : range.toList = base ++ '/' :: bits)
    (hslash : '/' ∉ base) (h : ∀ start, ¬Spells base start) : isWithin ip range = .ok false := by
  have hbase : ofChars? (Text.trim Text.isBlank base) = none :=
    Option.eq_none_iff_forall_ne_some.2 fun start hsome =>
      h start (ofChars?_trim_eq_some_iff.1 hsome)
  rw [isWithin, hrange, span_of_notMem hslash]
  cases parse? ip with
  | none => rfl
  | some address => simp only [hbase]

/-- An address is compared with another as soon as the bit count is read. -/
theorem isWithin_of_spells (hip : Spells ip.toList address)
    (hrange : range.toList = base ++ '/' :: bits) (hbase : Spells base start) :
    isWithin ip range = (bitCount? bits).map fun count? =>
      count?.any fun count => count ≤ 32 && agree count address start := by
  rw [isWithin, parse?_eq_some_iff.2 hip, hrange, span_of_notMem hbase.slash_notMem]
  simp only [ofChars?_trim_eq_some_iff.2 hbase]
  rcases bitCount? bits with _ | _ | _ <;> rfl

theorem isWithin_of_covers (hip : Spells ip.toList address) (h : Covers range address) :
    isWithin ip range = .ok true := by
  obtain ⟨start, count, ⟨base, bits, hrange, hbase, hcount⟩, hle, hbits⟩ := h
  rw [isWithin_of_spells hip hrange hbase, bitCount?_of_writesCount hcount]
  have hboth : (count ≤ 32 && agree count address start) = true :=
    Bool.and_eq_true_iff.2 ⟨decide_eq_true hle, (agree_iff hle).2 hbits⟩
  exact congrArg Except.ok hboth

theorem isWithin_of_unreadable (hip : Spells ip.toList address) (h : Unreadable range) :
    isWithin ip range = .error .rangeBitCount := by
  obtain ⟨base, bits, hrange, ⟨start, hbase⟩, hlooks, hwrites⟩ := h
  rw [isWithin_of_spells hip hrange hbase, bitCount?_of_looksLikeCount hlooks hwrites]
  rfl

theorem isWithin_of_neither (h : ∀ address, Spells ip.toList address →
    ¬Covers range address ∧ ¬Unreadable range) : isWithin ip range = .ok false := by
  by_cases hip : ∃ address, Spells ip.toList address
  case neg => exact isWithin_of_not_spells (not_exists.1 hip)
  by_cases hslash : '/' ∈ range.toList
  case neg => exact isWithin_of_slash_notMem hslash
  obtain ⟨address, hip⟩ := hip
  obtain ⟨hcovers, hreadable⟩ := h address hip
  obtain ⟨base, bits, hrange, hbefore⟩ := List.eq_append_cons_of_mem hslash
  by_cases hbase : ∃ start, Spells base start
  case neg => exact isWithin_of_base_not_spells hrange hbefore (not_exists.1 hbase)
  obtain ⟨start, hbase⟩ := hbase
  rw [isWithin_of_spells hip hrange hbase]
  by_cases hwrites : ∃ count, WritesCount bits count
  · obtain ⟨count, hcount⟩ := hwrites
    rw [bitCount?_of_writesCount hcount]
    refine congrArg Except.ok (Bool.eq_false_iff.2 fun hboth => hcovers ?_)
    obtain ⟨hle, hagree⟩ := Bool.and_eq_true_iff.1 hboth
    have hle : count ≤ 32 := of_decide_eq_true hle
    exact ⟨start, count, ⟨base, bits, hrange, hbase, hcount⟩, hle, (agree_iff hle).1 hagree⟩
  · have hlooks : ¬LooksLikeCount bits := fun hlooks =>
      hreadable ⟨base, bits, hrange, ⟨start, hbase⟩, hlooks, not_exists.1 hwrites⟩
    rw [bitCount?_of_not_looksLikeCount hlooks]
    rfl

/-- What lies within a range is what it covers. -/
theorem isWithin_eq_true_iff :
    isWithin ip range = .ok true ↔ ∃ address, Spells ip.toList address ∧ Covers range address := by
  refine ⟨fun h => by_contra fun hno => ?_, fun ⟨address, hip, hcovers⟩ =>
    isWithin_of_covers hip hcovers⟩
  by_cases hunreadable : ∃ address, Spells ip.toList address ∧ Unreadable range
  · obtain ⟨address, hip, hunreadable⟩ := hunreadable
    cases h.symm.trans (isWithin_of_unreadable hip hunreadable)
  · cases h.symm.trans (isWithin_of_neither fun address hip =>
      ⟨fun hcovers => hno ⟨address, hip, hcovers⟩,
        fun hun => hunreadable ⟨address, hip, hun⟩⟩)

/-- To look for an address in a range fails only where the bit count is no numeral. -/
theorem isWithin_eq_error_iff {e : Failure} : isWithin ip range = .error e ↔
    e = .rangeBitCount ∧ (∃ address, Spells ip.toList address) ∧ Unreadable range := by
  constructor
  · intro h
    by_cases hunreadable : ∃ address, Spells ip.toList address ∧ Unreadable range
    · obtain ⟨address, hip, hunreadable⟩ := hunreadable
      have herror := h.symm.trans (isWithin_of_unreadable hip hunreadable)
      exact ⟨Except.error.inj herror, ⟨address, hip⟩, hunreadable⟩
    · have hcovers : ∀ address, Spells ip.toList address → ¬Covers range address :=
        fun address hip hcovers => by cases h.symm.trans (isWithin_of_covers hip hcovers)
      cases h.symm.trans (isWithin_of_neither fun address hip =>
        ⟨hcovers address hip, fun hun => hunreadable ⟨address, hip, hun⟩⟩)
  · rintro ⟨rfl, ⟨address, hip⟩, hunreadable⟩
    exact isWithin_of_unreadable hip hunreadable

theorem exists_isWithin_iff : (∃ answer, isWithin ip range = .ok answer) ↔
    ¬((∃ address, Spells ip.toList address) ∧ Unreadable range) := by
  constructor
  · rintro ⟨answer, hanswer⟩ hunreadable
    cases hanswer.symm.trans (isWithin_eq_error_iff.2 ⟨rfl, hunreadable⟩)
  · intro hreadable
    cases h : isWithin ip range with
    | error e => exact absurd (isWithin_eq_error_iff.1 h).2 hreadable
    | ok answer => exact ⟨answer, rfl⟩

end IsWithin

/-! ## Bit counts in ASCII digits -/

section Ascii

variable {base count : String}

/-- The number with the digits of a text. -/
theorem writesCount_of_isDigit (hne : count ≠ "") (hlength : count.length ≤ Numeral.digitLimit)
    (hdigits : ∀ c ∈ count.toList, c.isDigit = true) :
    WritesCount count.toList (Nat.ofDigitChars 10 count.toList 0) := by
  have hpadded : Text.Padded Text.isWhiteSpace count.toList count.toList :=
    ⟨[], [], (List.append_nil _).symm, nofun, nofun⟩
  refine ⟨count.toList, count.toList.map fun c => c.toNat - '0'.toNat, hpadded, ?_, hlength, ?_, ?_⟩
  · exact fun hnil => hne (String.toList_eq_nil_iff.1 hnil)
  · rw [List.forall₂_map_right_iff, List.forall₂_same]
    exact fun c hc => Text.decimalValue?_of_isDigit (hdigits c hc)
  · rw [Text.ofDigits, List.foldl_map]
    rfl

theorem toList_slash (base count : String) :
    (base ++ "/" ++ count).toList = base.toList ++ '/' :: count.toList := by
  rw [String.toList_append, String.toList_append, List.append_assoc]
  rfl

theorem covers_slash_iff {n : Nat} {address : IPv4} (hslash : '/' ∉ base.toList)
    (hcount : WritesCount count.toList n) : Covers (base ++ "/" ++ count) address ↔
      ∃ start, Spells base.toList start ∧ n ≤ 32 ∧
        ∀ i < n, address.bits.getMsbD i = start.bits.getMsbD i := by
  constructor
  · rintro ⟨start, n', ⟨base', bits, hrange, hbase, hbits⟩, hle, hagree⟩
    obtain ⟨rfl, rfl⟩ := slash_inj ((toList_slash base count).symm.trans hrange) hslash
      hbase.slash_notMem
    obtain rfl := hbits.unique hcount
    exact ⟨start, hbase, hle, hagree⟩
  · rintro ⟨start, hbase, hle, hagree⟩
    exact ⟨start, n, ⟨_, _, toList_slash base count, hbase, hcount⟩, hle, hagree⟩

theorem not_unreadable_slash {n : Nat} (hslash : '/' ∉ base.toList)
    (hcount : WritesCount count.toList n) : ¬Unreadable (base ++ "/" ++ count) := by
  rintro ⟨base', bits, hrange, ⟨start, hbase⟩, -, hwrites⟩
  obtain ⟨-, rfl⟩ := slash_inj ((toList_slash base count).symm.trans hrange) hslash
    hbase.slash_notMem
  exact hwrites n hcount

theorem isWithin_slash {n : Nat} (hslash : '/' ∉ base.toList) (hcount : WritesCount count.toList n)
    (ip : String) : ∃ answer, isWithin ip (base ++ "/" ++ count) = .ok answer ∧
      (answer = true ↔ ∃ address start, Spells ip.toList address ∧ Spells base.toList start ∧
        n ≤ 32 ∧ ∀ i < n, address.bits.getMsbD i = start.bits.getMsbD i) := by
  cases h : isWithin ip (base ++ "/" ++ count) with
  | error e =>
      exact absurd (isWithin_eq_error_iff.1 h).2.2 (not_unreadable_slash hslash hcount)
  | ok answer =>
      have hanswer : answer = true ↔ ∃ address, Spells ip.toList address ∧
          Covers (base ++ "/" ++ count) address := by
        rw [← isWithin_eq_true_iff, h, Except.ok.injEq]
      refine ⟨answer, rfl, hanswer.trans (exists_congr fun address => ?_)⟩
      exact (and_congr_right' (covers_slash_iff hslash hcount)).trans exists_and_left.symm

/-- The bits of the range address past those that are counted are immaterial. -/
theorem isWithin_slash_congr {n : Nat} {base' : String} {start start' : IPv4}
    (hcount : WritesCount count.toList n) (hbase : Spells base.toList start)
    (hbase' : Spells base'.toList start')
    (hagree : ∀ i < n, start.bits.getMsbD i = start'.bits.getMsbD i) (ip : String) :
    isWithin ip (base ++ "/" ++ count) = isWithin ip (base' ++ "/" ++ count) := by
  obtain ⟨answer, hanswer, hiff⟩ := isWithin_slash hbase.slash_notMem hcount ip
  obtain ⟨answer', hanswer', hiff'⟩ := isWithin_slash hbase'.slash_notMem hcount ip
  rw [hanswer, hanswer']
  refine congrArg Except.ok (Bool.eq_iff_iff.2 (hiff.trans (Iff.trans ?_ hiff'.symm)))
  refine exists_congr fun address => ⟨?_, ?_⟩
  · rintro ⟨s, hip, hs, hle, hbits⟩
    obtain rfl := hs.unique hbase
    exact ⟨start', hip, hbase', hle, fun i hi => (hbits i hi).trans (hagree i hi)⟩
  · rintro ⟨s, hip, hs, hle, hbits⟩
    obtain rfl := hs.unique hbase'
    exact ⟨start, hip, hbase, hle, fun i hi => (hbits i hi).trans (hagree i hi).symm⟩

/-- Containment in a range whose bit count is written with ASCII digits, leading zeros and all, is
exact: both texts spell addresses, at most 32 bits are counted, and the two addresses agree on that
many leading bits.  The bits of the range address past them are immaterial, and a text without a
slash holds nothing. -/
theorem isWithin_ascii (hslash : '/' ∉ base.toList) (hne : count ≠ "")
    (hlength : count.length ≤ 4300) (hdigits : ∀ c ∈ count.toList, c.isDigit = true) :
    (∀ ip, ∃ answer, isWithin ip (base ++ "/" ++ count) = .ok answer ∧
      (answer = true ↔ ∃ address start, Spells ip.toList address ∧ Spells base.toList start ∧
        Nat.ofDigitChars 10 count.toList 0 ≤ 32 ∧
        ∀ i < Nat.ofDigitChars 10 count.toList 0,
          address.bits.getMsbD i = start.bits.getMsbD i)) ∧
    (∀ base' start start', Spells base.toList start → Spells base'.toList start' →
      (∀ i < Nat.ofDigitChars 10 count.toList 0, start.bits.getMsbD i = start'.bits.getMsbD i) →
      ∀ ip, isWithin ip (base ++ "/" ++ count) = isWithin ip (base' ++ "/" ++ count)) ∧
    ∀ ip range, '/' ∉ range.toList → isWithin ip range = .ok false := by
  have hcount := writesCount_of_isDigit hne hlength hdigits
  refine ⟨isWithin_slash hslash hcount, fun base' start start' hbase hbase' hagree => ?_,
    fun ip range => isWithin_of_slash_notMem⟩
  exact isWithin_slash_congr hcount hbase hbase' hagree

theorem isWithin_ascii_leadingZero :
    isWithin " 192.168.1.200\t" "192.168.1.7/024" = .ok true ∧
    (∀ ip, isWithin ip "192.168.1.7/024" = isWithin ip "192.168.1.0/024") ∧
    ∀ ip, isWithin ip "192.168.1.7" = .ok false := by
  have hrange : "192.168.1.7" ++ "/" ++ "024" = "192.168.1.7/024" := by decide
  have hrange' : "192.168.1.0" ++ "/" ++ "024" = "192.168.1.0/024" := by decide
  have hip : Spells " 192.168.1.200\t".toList ⟨0xC0A801C8⟩ :=
    parse?_eq_some_iff.1 (by decide +kernel)
  have hbase : Spells "192.168.1.7".toList ⟨0xC0A80107⟩ := parse?_eq_some_iff.1 (by decide +kernel)
  have hbase' : Spells "192.168.1.0".toList ⟨0xC0A80100⟩ :=
    parse?_eq_some_iff.1 (by decide +kernel)
  have hcount : Nat.ofDigitChars 10 "024".toList 0 = 24 := by decide
  have hdigits : ∀ c ∈ "024".toList, c.isDigit = true := List.all_eq_true.1 (by decide)
  obtain ⟨hexact, hhost, hslash⟩ :=
    isWithin_ascii hbase.slash_notMem (by decide) (by decide) hdigits
  rw [hrange, hcount] at hexact hhost
  obtain ⟨answer, hanswer, hiff⟩ := hexact " 192.168.1.200\t"
  obtain rfl := hiff.2 ⟨_, _, hip, hbase, by decide, by decide⟩
  refine ⟨hanswer, fun ip => ?_, fun ip => hslash ip "192.168.1.7" (by decide)⟩
  rw [← hrange', hhost _ _ _ hbase hbase' (by decide) ip]

end Ascii

end IPv4

end PlaybackRules
