import Mathlib.Data.List.DropRight
import Mathlib.Data.List.Forall2
import Mathlib.Data.List.TakeWhile
import PlaybackRules.Address.IPv4

/-!
# Written addresses

An IPv4 address has one written form, the decimal numbers of its four octets with points between
them, and that is all that is read as the address (`IPv4.ofChars?_eq_some_iff`).  A text may have
blanks around the written form (`IPv4.Spells`, `IPv4.parse?_eq_some_iff`).
-/

namespace PlaybackRules

/-! ## Texts -/

namespace Text

theorem splitAt_eq (separator : Char) : ∀ cs : List Char,
    splitAt separator cs = cs.splitOn separator
  | [] => rfl
  | c :: cs => by
      have hsplit : (c :: cs).splitOn separator =
          if c == separator then [] :: cs.splitOn separator
          else (cs.splitOn separator).modifyHead (List.cons c) :=
        List.splitOnP_cons_eq_if_modifyHead c cs
      have hcons : splitAt separator (c :: cs) =
          if c = separator then [] :: splitAt separator cs
          else (c :: (splitAt separator cs).headD []) :: (splitAt separator cs).tail := rfl
      have hne : cs.splitOn separator ≠ [] := List.splitOnP_ne_nil _ cs
      rw [hsplit, hcons, splitAt_eq separator cs]
      simp only [beq_iff_eq]
      split
      · rfl
      · cases hparts : cs.splitOn separator with
        | nil => exact absurd hparts hne
        | cons part parts => rfl

/-- All parts of a list are read if each of them is. -/
theorem mapM_eq_some_iff {α β : Type} {read : α → Option β} : ∀ {xs : List α} {ys : List β},
    xs.mapM read = some ys ↔ List.Forall₂ (fun x y => read x = some y) xs ys
  | [], ys => by
      rw [List.mapM_nil, List.forall₂_nil_left_iff]
      exact Option.some_inj.trans eq_comm
  | x :: xs, ys => by
      rw [List.mapM_cons, List.forall₂_cons_left_iff]
      constructor
      · intro h
        obtain ⟨y, hy, h⟩ := Option.bind_eq_some_iff.1 h
        obtain ⟨rest, hrest, h⟩ := Option.bind_eq_some_iff.1 h
        obtain rfl := Option.some.inj h
        exact ⟨y, rest, hy, mapM_eq_some_iff.1 hrest, rfl⟩
      · rintro ⟨y, rest, hy, hrest, rfl⟩
        rw [hy, mapM_eq_some_iff.2 hrest]
        rfl

section Trim

variable {drop : Char → Bool}

theorem trim_eq (drop : Char → Bool) (cs : List Char) :
    trim drop cs = (cs.dropWhile drop).rdropWhile drop := rfl

/-- A text is another one with characters of the class around it, or without. -/
def Padded (drop : Char → Bool) (core cs : List Char) : Prop :=
  ∃ left right, cs = left ++ core ++ right ∧ (∀ c ∈ left, drop c = true) ∧
    ∀ c ∈ right, drop c = true

theorem Padded.mono {drop' : Char → Bool} {core cs : List Char}
    (hmono : ∀ c, drop c = true → drop' c = true) (h : Padded drop core cs) :
    Padded drop' core cs := by
  obtain ⟨left, right, hcs, hleft, hright⟩ := h
  exact ⟨left, right, hcs, fun c hc => hmono c (hleft c hc), fun c hc => hmono c (hright c hc)⟩

theorem padded_trim (drop : Char → Bool) (cs : List Char) : Padded drop (trim drop cs) cs := by
  refine ⟨cs.takeWhile drop, (cs.dropWhile drop).rtakeWhile drop, ?_,
    fun c => List.mem_takeWhile_imp, fun c => List.mem_rtakeWhile_imp⟩
  rw [trim_eq, List.append_assoc, List.rdropWhile_append_rtakeWhile,
    List.takeWhile_append_dropWhile]

theorem dropWhile_of_forall_not {cs rest : List Char} (h : ∀ c ∈ cs, drop c = false)
    (hne : cs ≠ []) : (cs ++ rest).dropWhile drop = cs ++ rest := by
  cases cs with
  | nil => exact absurd rfl hne
  | cons c cs => exact List.dropWhile_cons_of_neg (by rw [h c (List.mem_cons_self ..)]; exact nofun)

/-- What has no character of the class is all that is left when the text around it is dropped. -/
theorem trim_eq_iff {core cs : List Char} (hcore : ∀ c ∈ core, drop c = false) (hne : core ≠ []) :
    trim drop cs = core ↔ Padded drop core cs := by
  refine ⟨fun h => h ▸ padded_trim drop cs, ?_⟩
  rintro ⟨left, right, rfl, hleft, hright⟩
  have hcore' : ∀ c ∈ core.reverse, drop c = false := fun c hc => hcore c (List.mem_reverse.1 hc)
  have hright' : ∀ c ∈ right.reverse, drop c = true := fun c hc => hright c (List.mem_reverse.1 hc)
  have hback : (core.reverse ++ []).dropWhile drop = core.reverse ++ [] :=
    dropWhile_of_forall_not hcore' (List.reverse_ne_nil_iff.2 hne)
  rw [List.append_nil] at hback
  rw [trim, List.append_assoc, List.dropWhile_append_of_pos hleft,
    dropWhile_of_forall_not hcore hne, List.reverse_append, List.dropWhile_append_of_pos hright',
    hback, List.reverse_reverse]

end Trim

/-! ### ASCII digits -/

theorem toNat_digitChar {digit : Nat} (h : digit < 10) :
    (Nat.digitChar digit).toNat = 48 + digit := by
  have hall : ∀ digit < 10, (Nat.digitChar digit).toNat = 48 + digit := by decide
  exact hall digit h

theorem asciiDigit?_eq_some_iff {c : Char} {digit : Nat} :
    asciiDigit? c = some digit ↔ digit < 10 ∧ c = Nat.digitChar digit := by
  unfold asciiDigit?
  constructor
  · intro h
    split at h
    case isTrue hc =>
        have hlower : 48 ≤ c.toNat := hc.1
        have hupper : c.toNat ≤ 57 := hc.2
        obtain rfl := Option.some.inj h
        have hlt : c.toNat - 48 < 10 := by omega
        refine ⟨hlt, Char.toNat_inj.1 ?_⟩
        rw [toNat_digitChar hlt]
        omega
    case isFalse => cases h
  · rintro ⟨hlt, rfl⟩
    have hnat := toNat_digitChar hlt
    have hdigit : '0' ≤ Nat.digitChar digit ∧ Nat.digitChar digit ≤ '9' := by
      constructor
      · show 48 ≤ (Nat.digitChar digit).toNat
        omega
      · show (Nat.digitChar digit).toNat ≤ 57
        omega
    rw [if_pos hdigit, hnat, Nat.add_sub_cancel_left]

theorem mapM_asciiDigit?_eq_some_iff {cs : List Char} {digits : List Nat} :
    cs.mapM asciiDigit? = some digits ↔
      (∀ digit ∈ digits, digit < 10) ∧ cs = digits.map Nat.digitChar := by
  rw [mapM_eq_some_iff]
  constructor
  · intro h
    induction h with
    | nil => exact ⟨fun _ hmem => absurd hmem List.not_mem_nil, rfl⟩
    | cons hdigit _ ih =>
        obtain ⟨hlt, rfl⟩ := asciiDigit?_eq_some_iff.1 hdigit
        exact ⟨List.forall_mem_cons.2 ⟨hlt, ih.1⟩, by rw [ih.2, List.map_cons]⟩
  · rintro ⟨hlt, rfl⟩
    rw [List.forall₂_map_left_iff, List.forall₂_same]
    exact fun digit hdigit => asciiDigit?_eq_some_iff.2 ⟨hlt digit hdigit, rfl⟩

/-- A run of ASCII digits is read as the number with these digits. -/
theorem exists_digits_of_natural? {cs : List Char} {n : Nat} (h : natural? cs = some n) :
    ∃ digits, digits ≠ [] ∧ (∀ digit ∈ digits, digit < 10) ∧
      cs = digits.map Nat.digitChar ∧ n = ofDigits digits := by
  unfold natural? at h
  split at h
  case isTrue => cases h
  case isFalse hne =>
      obtain ⟨digits, hdigits, rfl⟩ := Option.map_eq_some_iff.1 h
      obtain ⟨hlt, rfl⟩ := mapM_asciiDigit?_eq_some_iff.1 hdigits
      refine ⟨digits, ?_, hlt, rfl, rfl⟩
      rintro rfl
      exact hne rfl

/-! ### Digits of any script -/

/-- The code points of the blanks. -/
def blankCodes : List Nat :=
  [0x09, 0x0A, 0x0B, 0x0C, 0x0D, 0x1C, 0x1D, 0x1E, 0x1F, 0x20, 0x85, 0xA0, 0x1680] ++
    List.range' 0x2000 11 ++ [0x2028, 0x2029, 0x202F, 0x205F, 0x3000]

theorem toNat_mem_blankCodes {c : Char} (h : isBlank c = true) : c.toNat ∈ blankCodes := by
  simp only [isBlank, isWhiteSpace, Bool.or_eq_true, Bool.and_eq_true, decide_eq_true_iff,
    beq_iff_eq] at h
  simp only [blankCodes, List.mem_append, List.mem_cons, List.mem_range'_1, List.not_mem_nil,
    or_false]
  omega

/-- No blank is a digit of any script. -/
theorem isBlank_of_isDigit {c : Char} (h : isDigit c = true) : isBlank c = false := by
  have hall : ∀ n ∈ blankCodes, isDigit (Char.ofNat n) = false := by decide +kernel
  refine Bool.eq_false_iff.2 fun hblank => ?_
  have hdigit := hall c.toNat (toNat_mem_blankCodes hblank)
  rw [Char.ofNat_toNat, h] at hdigit
  cases hdigit

theorem isBlank_of_isWhiteSpace {c : Char} (h : isWhiteSpace c = true) : isBlank c = true := by
  rw [isBlank, h, Bool.true_or]

theorem isDigit_of_decimalValue? {c : Char} {value : Nat} (h : decimalValue? c = some value) :
    isDigit c = true := by
  rw [isDigit, h, Option.isSome_some, Bool.true_or]

/-- An ASCII digit is a decimal digit, of the value it has by its place. -/
theorem decimalValue?_of_isDigit {c : Char} (h : c.isDigit = true) :
    decimalValue? c = some (c.toNat - '0'.toNat) := by
  simp only [Char.isDigit, Bool.and_eq_true, decide_eq_true_iff, ge_iff_le] at h
  have hlower : 48 ≤ c.toNat := h.1
  have hupper : c.toNat ≤ 57 := h.2
  have hfind : digitZeros.find? (fun first => first ≤ c.toNat && c.toNat < first + 10) =
      some 48 := by
    refine List.find?_cons_of_pos ?_
    simp only [Bool.and_eq_true, decide_eq_true_iff]
    omega
  rw [decimalValue?, hfind]
  rfl

end Text

/-! ## Octets -/

namespace IPv4

/-- The decimal digits of an octet. -/
def octetText (octet : BitVec 8) : List Char := Nat.toDigits 10 octet.toNat

theorem octet?_octetText (octet : BitVec 8) : octet? (octetText octet) = some octet := by
  have hall : ∀ n : Fin 256, octet? (octetText (BitVec.ofFin n)) = some (BitVec.ofFin n) := by
    decide +kernel
  exact hall octet.toFin

/-- Up to three digits without a superfluous zero in front are the written form of a number. -/
theorem map_digitChar_eq {digits : List Nat} (hlt : ∀ digit ∈ digits, digit < 10)
    (hne : digits ≠ []) (hlength : digits.length ≤ 3)
    (hzero : digits.head? = some 0 → digits = [0]) :
    digits.map Nat.digitChar = Nat.toDigits 10 (Text.ofDigits digits) := by
  have hfirst : ∀ a b rest, digits = a :: b :: rest → 0 < a := by
    rintro a b rest rfl
    refine Nat.pos_of_ne_zero fun h => ?_
    cases hzero (congrArg some h)
  match digits, hlength with
  | [a], _ =>
      have ha : a < 10 := hlt a (by simp)
      have hvalue : Text.ofDigits [a] = a := by simp [Text.ofDigits]
      rw [hvalue, Nat.toDigits_of_lt_base ha]
      rfl
  | [a, b], _ =>
      have ha : a < 10 := hlt a (by simp)
      have hb : b < 10 := hlt b (by simp)
      have hvalue : Text.ofDigits [a, b] = 10 * a + b := by simp [Text.ofDigits]
      rw [hvalue, ← Nat.toDigits_append_toDigits (by decide) (hfirst a b [] rfl) hb,
        Nat.toDigits_of_lt_base ha, Nat.toDigits_of_lt_base hb]
      rfl
  | [a, b, c], _ =>
      have ha : a < 10 := hlt a (by simp)
      have hb : b < 10 := hlt b (by simp)
      have hc : c < 10 := hlt c (by simp)
      have hpos := hfirst a b [c] rfl
      have hvalue : Text.ofDigits [a, b, c] = 10 * (10 * a + b) + c := by simp [Text.ofDigits]
      rw [hvalue, ← Nat.toDigits_append_toDigits (by decide) (by omega) hc,
        ← Nat.toDigits_append_toDigits (by decide) hpos hb, Nat.toDigits_of_lt_base ha,
        Nat.toDigits_of_lt_base hb, Nat.toDigits_of_lt_base hc]
      rfl

theorem octet?_eq_some_iff {cs : List Char} {octet : BitVec 8} :
    octet? cs = some octet ↔ cs = octetText octet := by
  refine ⟨fun h => ?_, fun h => h ▸ octet?_octetText octet⟩
  unfold octet? at h
  split at h
  case isTrue => cases h
  case isFalse hshape =>
      simp only [Bool.or_eq_true, Bool.and_eq_true, decide_eq_true_iff, beq_iff_eq, bne_iff_ne,
        not_or, not_and, not_not, not_lt] at hshape
      obtain ⟨hlength, hzero⟩ := hshape
      obtain ⟨n, hn, hif⟩ := Option.bind_eq_some_iff.1 h
      obtain ⟨digits, hne, hlt, rfl, rfl⟩ := Text.exists_digits_of_natural? hn
      have hhead : digits.head? = some 0 → digits = [0] := by
        intro hhead
        have hchars := hzero (by rw [List.head?_map, hhead]; rfl)
        obtain ⟨digit, rfl, -⟩ := List.map_eq_singleton_iff.1 hchars
        rw [Option.some.inj hhead]
      rw [List.length_map] at hlength
      split at hif
      case isTrue hsmall =>
          obtain rfl := Option.some.inj hif
          rw [octetText, BitVec.toNat_ofNat, Nat.mod_eq_of_lt hsmall]
          exact map_digitChar_eq hlt hne hlength hhead
      case isFalse => cases hif

/-! ## Addresses -/

/-- The octets of an address, the most significant first. -/
def octets (ip : IPv4) : List (BitVec 8) :=
  [ip.octetFrom 24, ip.octetFrom 16, ip.octetFrom 8, ip.octetFrom 0]

theorem octets_ofOctets (a b c d : BitVec 8) : (ofOctets a b c d).octets = [a, b, c, d] := by
  have hoctet : ∀ start octet, (∀ i, (hi : i < 8) →
      (a ++ b ++ c ++ d).getLsbD (start + i) = octet[i]) →
        (ofOctets a b c d).octetFrom start = octet := by
    intro start octet h
    ext i hi
    rw [octetFrom, ofOctets, BitVec.getElem_extractLsb', h i hi]
  unfold octets
  rw [hoctet 24 a, hoctet 16 b, hoctet 8 c, hoctet 0 d]
  all_goals
    intro i hi
    simp only [BitVec.getLsbD_append]
    grind

theorem ofOctets_octets (ip : IPv4) :
    ofOctets (ip.octetFrom 24) (ip.octetFrom 16) (ip.octetFrom 8) (ip.octetFrom 0) = ip := by
  unfold ofOctets octetFrom
  rw [BitVec.extractLsb'_append_extractLsb'_eq_extractLsb' (by decide : 24 = 16 + 8),
    BitVec.extractLsb'_append_extractLsb'_eq_extractLsb' (by decide : 16 = 8 + 8),
    BitVec.extractLsb'_append_extractLsb'_eq_extractLsb' (by decide : 8 = 0 + 8)]
  exact congrArg mk BitVec.extractLsb'_eq_self

theorem toList_text (ip : IPv4) :
    ip.text.toList = ['.'].intercalate (ip.octets.map octetText) := by
  rw [text, String.toList_intercalate]
  simp [octets, octetText]

theorem mapM_octet?_eq_some_iff {parts : List (List Char)} {octets : List (BitVec 8)} :
    parts.mapM octet? = some octets ↔ parts = octets.map octetText := by
  simp only [Text.mapM_eq_some_iff, octet?_eq_some_iff]
  rw [← List.forall₂_map_right_iff (R := Eq), List.forall₂_eq_eq_eq]

theorem isDigit_of_mem_octetText {octet : BitVec 8} {c : Char} (h : c ∈ octetText octet) :
    c.isDigit = true := Nat.isDigit_of_mem_toDigits (by decide) (by decide) h

theorem splitAt_text (ip : IPv4) :
    Text.splitAt '.' ip.text.toList = ip.octets.map octetText := by
  rw [toList_text, Text.splitAt_eq]
  refine List.splitOn_intercalate '.' (fun part hpart hmem => ?_) (by simp [octets])
  obtain ⟨octet, -, rfl⟩ := List.mem_map.1 hpart
  exact absurd (isDigit_of_mem_octetText hmem) (by decide)

/-- A text that stands alone is read as an address if it is the written form. -/
theorem ofChars?_eq_some_iff {cs : List Char} {ip : IPv4} :
    ofChars? cs = some ip ↔ cs = ip.text.toList := by
  constructor
  · intro h
    unfold ofChars? at h
    split at h
    case h_1 a b c d hparts =>
        obtain rfl := Option.some.inj h
        rw [Text.splitAt_eq, mapM_octet?_eq_some_iff] at hparts
        rw [toList_text, octets_ofOctets, ← hparts, List.intercalate_splitOn]
    case h_2 => cases h
  · rintro rfl
    have hparts : (Text.splitAt '.' ip.text.toList).mapM octet? = some ip.octets := by
      rw [splitAt_text, mapM_octet?_eq_some_iff]
    unfold ofChars?
    rw [hparts]
    exact congrArg some ip.ofOctets_octets

theorem text_ne_nil (ip : IPv4) : ip.text.toList ≠ [] := by
  rw [toList_text]
  simp [octets]

theorem eq_point_or_isDigit_of_mem_text {ip : IPv4} {c : Char} (h : c ∈ ip.text.toList) :
    c = '.' ∨ c.isDigit = true := by
  rw [toList_text] at h
  simp only [octets, List.map_cons, List.map_nil, List.intercalate_cons_cons,
    List.intercalate_singleton, List.mem_append, List.mem_singleton] at h
  grind [isDigit_of_mem_octetText]

theorem isBlank_of_mem_text {ip : IPv4} {c : Char} (h : c ∈ ip.text.toList) :
    Text.isBlank c = false := by
  rcases eq_point_or_isDigit_of_mem_text h with rfl | hdigit
  · decide
  · exact Text.isBlank_of_isDigit
      (Text.isDigit_of_decimalValue? (Text.decimalValue?_of_isDigit hdigit))

/-- The text is the written form of an address with blanks around it, or without. -/
def Spells (cs : List Char) (ip : IPv4) : Prop := Text.Padded Text.isBlank ip.text.toList cs

theorem ofChars?_trim_eq_some_iff {cs : List Char} {ip : IPv4} :
    ofChars? (Text.trim Text.isBlank cs) = some ip ↔ Spells cs ip := by
  rw [ofChars?_eq_some_iff, Text.trim_eq_iff (fun _ => isBlank_of_mem_text) ip.text_ne_nil, Spells]

theorem parse?_eq_some_iff {s : String} {ip : IPv4} : parse? s = some ip ↔ Spells s.toList ip :=
  ofChars?_trim_eq_some_iff

/-- A text spells at most one address. -/
theorem Spells.unique {cs : List Char} {ip ip' : IPv4} (h : Spells cs ip) (h' : Spells cs ip') :
    ip = ip' :=
  Option.some.inj ((ofChars?_trim_eq_some_iff.2 h).symm.trans (ofChars?_trim_eq_some_iff.2 h'))

theorem Spells.slash_notMem {cs : List Char} {ip : IPv4} (h : Spells cs ip) : '/' ∉ cs := by
  obtain ⟨left, right, rfl, hleft, hright⟩ := h
  have hblank : Text.isBlank '/' ≠ true := by decide
  have htext : '/' ∉ ip.text.toList := fun hmem =>
    (eq_point_or_isDigit_of_mem_text hmem).elim (by decide) (by decide)
  simp only [List.mem_append, not_or]
  exact ⟨⟨fun hmem => hblank (hleft _ hmem), htext⟩, fun hmem => hblank (hright _ hmem)⟩

end IPv4

end PlaybackRules
