import PlaybackRules.Moment.Basic
import PlaybackRules.Text.Digit

/-!
# Written moments

`Stamp.text` writes a time as `YYYY-MM-DDTHH:MM:SS`, with six more digits if it has microseconds
and with its offset if it has one.  `Stamp.ofChars?` reads that form and some looser ones: a date
alone, a time without seconds, another separator, a fraction of any length, `Z` for no offset, an
offset without a colon.
-/

namespace PlaybackRules

/-- The digits of `n`, exactly `width` of them; higher ones are left out. -/
def fixedDigits : (width n : Nat) → List Char
  | 0, _ => []
  | width + 1, n => fixedDigits width (n / 10) ++ [Nat.digitChar (n % 10)]

/-- Reads exactly `width` digits. -/
def takeFixed? (width : Nat) (cs : List Char) : Option (Nat × List Char) :=
  let digits := cs.take width
  if digits.length = width then
    (digits.mapM Text.asciiDigit?).map fun values => (Text.ofDigits values, cs.drop width)
  else none

/-- Reads a given character. -/
def takeChar? (c : Char) : List Char → Option (List Char)
  | c' :: cs => if c' = c then some cs else none
  | [] => none

namespace Date

/-- The written form. -/
def chars (date : Date) : List Char :=
  fixedDigits 4 date.year ++ '-' :: fixedDigits 2 date.month ++ '-' :: fixedDigits 2 date.day

/-- Reads a date at the front of a text. -/
def take? (cs : List Char) : Option (Date × List Char) := do
  let (year, cs) ← takeFixed? 4 cs
  let (month, cs) ← takeFixed? 2 (← takeChar? '-' cs)
  let (day, cs) ← takeFixed? 2 (← takeChar? '-' cs)
  let date ← ofNumbers? year month day
  return (date, cs)

end Date

namespace Offset

/-- The written form. -/
def chars (offset : Offset) : List Char :=
  let minutes := offset.minutes.natAbs
  (if offset.minutes < 0 then '-' else '+') ::
    fixedDigits 2 (minutes / 60) ++ ':' :: fixedDigits 2 (minutes % 60)

/-- Reads hours and minutes, with or without a colon between, at the end of a text. -/
def ofClock? (negative : Bool) (cs : List Char) : Option Offset := do
  let (hours, cs) ← takeFixed? 2 cs
  let (minutes, cs) ← takeFixed? 2 ((takeChar? ':' cs).getD cs)
  if cs.isEmpty then ofNumbers? negative hours minutes else none

/-- Reads the rest of a text as an offset; the empty rest has none. -/
def ofChars? : List Char → Option (Option Offset)
  | [] => some none
  | ['Z'] | ['z'] => some (some utc)
  | '+' :: cs => (ofClock? false cs).map some
  | '-' :: cs | '\u2212' :: cs => (ofClock? true cs).map some
  | _ => none

end Offset

/-- The microseconds of a decimal fraction of a second; digits past the sixth are left out. -/
def fractionMicros (digits : List Nat) : Nat :=
  Text.ofDigits ((digits ++ List.replicate 6 0).take 6)

/-- Reads the fraction of a second, if a mark for one is there. -/
def takeFraction? : List Char → Option (Nat × List Char)
  | c :: cs =>
    if c = '.' ∨ c = ',' then
      let digits := cs.takeWhile fun d => (Text.asciiDigit? d).isSome
      if digits.isEmpty then none
      else (digits.mapM Text.asciiDigit?).map fun values =>
        (fractionMicros values, cs.drop digits.length)
    else some (0, c :: cs)
  | [] => some (0, [])

/-- Reads seconds with their fraction, if a colon announces them. -/
def takeSeconds? (cs : List Char) : Option (Nat × Nat × List Char) :=
  match takeChar? ':' cs with
  | none => some (0, 0, cs)
  | some cs => do
    let (second, cs) ← takeFixed? 2 cs
    let (micro, cs) ← takeFraction? cs
    return (second, micro, cs)

/-- The time of day on a date with the given numbers, if there is one. -/
def CivilTime.ofNumbers? (date : Date) (hour minute second micro : Nat) : Option CivilTime :=
  if h : hour < 24 ∧ minute < 60 ∧ second < 60 ∧ micro < 1000000 then
    some ⟨date, ⟨hour, h.1⟩, ⟨minute, h.2.1⟩, ⟨second, h.2.2.1⟩, ⟨micro, h.2.2.2⟩⟩
  else none

/-- The time of day as written. -/
def CivilTime.chars (t : CivilTime) : List Char :=
  t.date.chars ++ 'T' :: fixedDigits 2 t.hour ++ ':' :: fixedDigits 2 t.minute ++
    ':' :: fixedDigits 2 t.second ++
    (if t.micro.val = 0 then [] else '.' :: fixedDigits 6 t.micro)

namespace Stamp

/-- The written form. -/
def chars (s : Stamp) : List Char :=
  s.civil.chars ++ (match s.offset with | some offset => offset.chars | none => [])

/-- The written form as a text. -/
def text (s : Stamp) : String := String.ofList s.chars

/-- The marks that may stand between date and time. -/
def separators : List Char := ['T', 't', ' ', '_']

/-- Reads a written time. -/
def ofChars? (cs : List Char) : Option Stamp := do
  match ← Date.take? cs with
  | (date, []) => return ⟨← CivilTime.ofNumbers? date 0 0 0 0, none⟩
  | (date, separator :: cs) =>
    if separators.contains separator then
      let (hour, cs) ← takeFixed? 2 cs
      let (minute, cs) ← takeFixed? 2 (← takeChar? ':' cs)
      let (second, micro, cs) ← takeSeconds? cs
      return ⟨← CivilTime.ofNumbers? date hour minute second micro, ← Offset.ofChars? cs⟩
    else none

end Stamp

/-- The written form of a moment. -/
def Moment.text (m : Moment) : String := m.stamp.text

end PlaybackRules
