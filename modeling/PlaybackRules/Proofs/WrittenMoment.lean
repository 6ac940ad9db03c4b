import Mathlib.Algebra.Ring.Nat
import PlaybackRules.Moment.Text
import PlaybackRules.Proofs.Elapsed
import PlaybackRules.Proofs.WrittenAddress

/-!
# Written moments

What is written for a time is read as that time, with its microseconds and its offset
(`Stamp.ofChars?_chars`).  Numbers of a fixed width are read back whatever follows them; only a
fraction of a second ends where its digits do, so what follows must not go on with it
(`EndsSeconds`).  That is the sign of an offset, or nothing.
-/

namespace PlaybackRules

/-! ## Numbers of a fixed width -/

theorem Text.ofDigits_append_singleton (digits : List Nat) (digit : Nat) :
    ofDigits (digits ++ [digit]) = 10 * ofDigits digits + digit := by
  rw [ofDigits, List.foldl_append]
  rfl

/-- The digits of a number, of the given width, as many as there are. -/
theorem exists_digits_of_fixedDigits (width n : Nat) :
    ∃ digits, (∀ digit ∈ digits, digit < 10) ∧ digits.length = width ∧
      fixedDigits width n = digits.map Nat.digitChar ∧ Text.ofDigits digits = n % 10 ^ width := by
  induction width generalizing n with
  | zero => exact ⟨[], nofun, rfl, rfl, by simp [Text.ofDigits, Nat.mod_one]⟩
  | succ width ih =>
      obtain ⟨digits, hlt, hlength, hchars, hvalue⟩ := ih (n / 10)
      refine ⟨digits ++ [n % 10], ?_, by simp [hlength], ?_, ?_⟩
      · intro digit hdigit
        rcases List.mem_append.1 hdigit with hdigit | hdigit
        · exact hlt digit hdigit
        · have hmod := List.mem_singleton.1 hdigit
          omega
      · rw [fixedDigits, hchars, List.map_append]
        rfl
      · rw [Text.ofDigits_append_singleton, hvalue, Nat.pow_succ', Nat.mod_mul]
        omega

theorem length_fixedDigits (width n : Nat) : (fixedDigits width n).length = width := by
  obtain ⟨digits, -, hlength, hchars, -⟩ := exists_digits_of_fixedDigits width n
  rw [hchars, List.length_map, hlength]

theorem mapM_fixedDigits (width n : Nat) :
    ∃ digits, (fixedDigits width n).mapM Text.asciiDigit? = some digits ∧
      digits.length = width ∧ Text.ofDigits digits = n % 10 ^ width := by
  obtain ⟨digits, hlt, hlength, hchars, hvalue⟩ := exists_digits_of_fixedDigits width n
  exact ⟨digits, Text.mapM_asciiDigit?_eq_some_iff.2 ⟨hlt, hchars⟩, hlength, hvalue⟩

theorem takeFixed?_fixedDigits {width n : Nat} (h : n < 10 ^ width) (rest : List Char) :
    takeFixed? width (fixedDigits width n ++ rest) = some (n, rest) := by
  obtain ⟨digits, hdigits, -, hvalue⟩ := mapM_fixedDigits width n
  have hlength := length_fixedDigits width n
  have htake : (fixedDigits width n ++ rest).take width = fixedDigits width n :=
    List.take_left' hlength
  have hdrop : (fixedDigits width n ++ rest).drop width = rest := List.drop_left' hlength
  rw [takeFixed?, htake, hdrop, if_pos hlength, hdigits, Option.map_some, hvalue,
    Nat.mod_eq_of_lt h]

theorem takeChar?_cons (c : Char) (cs : List Char) : takeChar? c (c :: cs) = some cs := if_pos rfl

/-! ## Dates -/

theorem Date.take?_chars (date : Date) (rest : List Char) :
    take? (date.chars ++ rest) = some (date, rest) := by
  have hyear := date.year_le
  have hmonth := date.month_le
  have hday := date.day_le
  have hlast := (daysInMonth_bounds date.year date.month).2
  have hdate : ofNumbers? date.year date.month date.day = some date :=
    ofNumbers?_eq_some_iff.2 ⟨rfl, rfl, rfl⟩
  have hchars : date.chars ++ rest = fixedDigits 4 date.year ++ ('-' ::
      (fixedDigits 2 date.month ++ ('-' :: (fixedDigits 2 date.day ++ rest)))) := by
    simp [chars]
  unfold take?
  simp only [hchars, takeFixed?_fixedDigits (show date.year < 10 ^ 4 by omega),
    takeFixed?_fixedDigits (show date.month < 10 ^ 2 by omega),
    takeFixed?_fixedDigits (show date.day < 10 ^ 2 by omega), takeChar?_cons, hdate,
    Option.bind_eq_bind, Option.bind_some]
  rfl

/-! ## Offsets -/

namespace Offset

theorem ofNumbers?_natAbs (offset : Offset) :
    ofNumbers? (offset.minutes < 0) (offset.minutes.natAbs / 60) (offset.minutes.natAbs % 60) =
      some offset := by
  have hlt := offset.minutes_lt
  have hclock : offset.minutes.natAbs / 60 < 24 ∧ offset.minutes.natAbs % 60 < 60 := by omega
  have htotal : 60 * (offset.minutes.natAbs / 60) + offset.minutes.natAbs % 60 =
      offset.minutes.natAbs := Nat.div_add_mod ..
  unfold ofNumbers?
  rw [dif_pos hclock]
  by_cases hneg : offset.minutes < 0
  · have hminutes : -(offset.minutes.natAbs : Int) = offset.minutes := by omega
    simp only [htotal, hneg, hminutes, decide_true, if_true]
  · have hminutes : (offset.minutes.natAbs : Int) = offset.minutes := by omega
    simp only [htotal, hneg, hminutes, decide_false, Bool.false_eq_true, if_false]

theorem ofClock?_fixedDigits (negative : Bool) {hours minutes : Nat} (hhours : hours < 100)
    (hminutes : minutes < 100) :
    ofClock? negative (fixedDigits 2 hours ++ ':' :: fixedDigits 2 minutes) =
      ofNumbers? negative hours minutes := by
  have hend : takeFixed? 2 (fixedDigits 2 minutes) = some (minutes, []) := by
    have htake : takeFixed? 2 (fixedDigits 2 minutes ++ []) = some (minutes, []) :=
      takeFixed?_fixedDigits hminutes []
    rwa [List.append_nil] at htake
  unfold ofClock?
  simp only [takeFixed?_fixedDigits (show hours < 10 ^ 2 by omega), takeChar?_cons,
    Option.getD_some, hend, Option.bind_eq_bind, Option.bind_some]
  rfl

theorem ofChars?_chars (offset : Offset) : ofChars? offset.chars = some (some offset) := by
  have hlt := offset.minutes_lt
  have hread := ofNumbers?_natAbs offset
  unfold chars
  by_cases hneg : offset.minutes < 0
  · simp only [hneg, if_true]
    rw [decide_eq_true hneg, ← ofClock?_fixedDigits true (by omega) (by omega)] at hread
    exact congrArg (Option.map some) hread
  · simp only [hneg, if_false]
    rw [decide_eq_false hneg, ← ofClock?_fixedDigits false (by omega) (by omega)] at hread
    exact congrArg (Option.map some) hread

end Offset

/-! ## Seconds -/

/-- A text does not go on with the seconds before it: it begins neither with a digit nor with the
mark of a fraction. -/
def EndsSeconds (rest : List Char) : Prop :=
  ∀ c ∈ rest.head?, Text.asciiDigit? c = none ∧ c ≠ '.' ∧ c ≠ ','

theorem Offset.endsSeconds_chars (offset : Offset) : EndsSeconds offset.chars := by
  intro c hc
  have hsign : (if offset.minutes < 0 then '-' else '+') = c := Option.some.inj hc
  rw [← hsign]
  split
  · decide
  · decide

section Seconds

variable {rest : List Char}

theorem takeFraction?_of_endsSeconds (h : EndsSeconds rest) :
    takeFraction? rest = some (0, rest) := by
  cases rest with
  | nil => rfl
  | cons c rest =>
      obtain ⟨-, hpoint, hcomma⟩ := h c rfl
      exact if_neg (not_or_intro hpoint hcomma)

theorem takeWhile_fixedDigits (width n : Nat) (h : EndsSeconds rest) :
    (fixedDigits width n ++ rest).takeWhile (fun c => (Text.asciiDigit? c).isSome) =
      fixedDigits width n := by
  have hdigits : ∀ c ∈ fixedDigits width n, (Text.asciiDigit? c).isSome = true := by
    obtain ⟨digits, hlt, -, hchars, -⟩ := exists_digits_of_fixedDigits width n
    intro c hc
    rw [hchars] at hc
    obtain ⟨digit, hdigit, rfl⟩ := List.mem_map.1 hc
    rw [Text.asciiDigit?_eq_some_iff.2 ⟨hlt digit hdigit, rfl⟩]
    rfl
  rw [List.takeWhile_append_of_pos hdigits]
  cases rest with
  | nil => exact List.append_nil _
  | cons c rest =>
      have hc := (h c rfl).1
      rw [List.takeWhile_cons_of_neg (by rw [hc]; exact nofun), List.append_nil]

theorem fractionMicros_of_length {digits : List Nat} (h : digits.length = 6) :
    fractionMicros digits = Text.ofDigits digits := by
  rw [fractionMicros, List.take_left' h]

theorem takeFraction?_fixedDigits {micro : Nat} (hmicro : micro < 10 ^ 6) (h : EndsSeconds rest) :
    takeFraction? ('.' :: (fixedDigits 6 micro ++ rest)) = some (micro, rest) := by
  obtain ⟨digits, hdigits, hlength, hvalue⟩ := mapM_fixedDigits 6 micro
  have hsix := length_fixedDigits 6 micro
  have hne : (fixedDigits 6 micro).isEmpty = false := by
    rw [List.isEmpty_eq_false_iff, ← List.length_pos_iff_ne_nil, hsix]
    decide
  have hdrop : (fixedDigits 6 micro ++ rest).drop 6 = rest := List.drop_left' hsix
  unfold takeFraction?
  simp only [takeWhile_fixedDigits 6 micro h, hne, hdigits, Option.map_some,
    fractionMicros_of_length hlength, hvalue, Nat.mod_eq_of_lt hmicro, hsix, hdrop]
  rfl

theorem takeSeconds?_fixedDigits {second micro : Nat} (hsecond : second < 10 ^ 2)
    (hmicro : micro < 10 ^ 6) (h : EndsSeconds rest) :
    takeSeconds? (':' :: (fixedDigits 2 second ++
      ((if micro = 0 then [] else '.' :: fixedDigits 6 micro) ++ rest))) =
      some (second, micro, rest) := by
  have hfraction : takeFraction? ((if micro = 0 then [] else '.' :: fixedDigits 6 micro) ++ rest) =
      some (micro, rest) := by
    by_cases hzero : micro = 0
    · rw [if_pos hzero, hzero]
      exact takeFraction?_of_endsSeconds h
    · rw [if_neg hzero]
      exact takeFraction?_fixedDigits hmicro h
  unfold takeSeconds?
  simp only [takeChar?_cons, takeFixed?_fixedDigits hsecond, hfraction, Option.bind_eq_bind,
    Option.bind_some]
  rfl

end Seconds

/-! ## Times -/

theorem CivilTime.ofNumbers?_fields (t : CivilTime) :
    ofNumbers? t.date t.hour t.minute t.second t.micro = some t :=
  dif_pos ⟨t.hour.isLt, t.minute.isLt, t.second.isLt, t.micro.isLt⟩

/-- What is written for a time is read as that time. -/
theorem Stamp.ofChars?_chars (stamp : Stamp) : ofChars? stamp.chars = some stamp := by
  obtain ⟨civil, offset⟩ := stamp
  have hhour := civil.hour.isLt
  have hminute := civil.minute.isLt
  have hsecond := civil.second.isLt
  have hmicro := civil.micro.isLt
  obtain ⟨rest, hchars, hrest, hoffset⟩ : ∃ rest, (Stamp.mk civil offset).chars =
      civil.chars ++ rest ∧ EndsSeconds rest ∧ Offset.ofChars? rest = some offset := by
    cases offset with
    | none => exact ⟨[], rfl, nofun, rfl⟩
    | some offset => exact ⟨offset.chars, rfl, offset.endsSeconds_chars, offset.ofChars?_chars⟩
  have hsplit : (Stamp.mk civil offset).chars = civil.date.chars ++ ('T' ::
      (fixedDigits 2 civil.hour ++ (':' :: (fixedDigits 2 civil.minute ++
        (':' :: (fixedDigits 2 civil.second ++ ((if civil.micro.val = 0 then [] else
          '.' :: fixedDigits 6 civil.micro) ++ rest))))))) := by
    rw [hchars]
    simp [CivilTime.chars]
  have hseparator : separators.contains 'T' = true := by decide
  unfold ofChars?
  simp only [hsplit, Date.take?_chars, hseparator, if_true,
    takeFixed?_fixedDigits (show civil.hour.val < 10 ^ 2 by omega),
    takeFixed?_fixedDigits (show civil.minute.val < 10 ^ 2 by omega), takeChar?_cons,
    takeSeconds?_fixedDigits (show civil.second.val < 10 ^ 2 by omega)
      (show civil.micro.val < 10 ^ 6 by omega) hrest,
    CivilTime.ofNumbers?_fields, hoffset, Option.bind_eq_bind, Option.bind_some]
  rfl

/-- What is written for a moment is read as that moment, with its offset. -/
theorem Reader.moment_ofMoment (m : Moment) : moment (.ofMoment m) = .ok m := by
  have hread : stampOfText? m.text = some m.stamp := by
    rw [stampOfText?, Moment.text, Stamp.text, String.toList_ofList, Stamp.ofChars?_chars]
  have hstamp : stamp (.ofMoment m) = .ok m.stamp := by
    unfold stamp Value.ofMoment
    simp only [hread]
    rfl
  rw [moment, hstamp]
  rfl

end PlaybackRules
