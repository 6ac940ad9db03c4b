import PlaybackRules.Number.Binary64

/-!
# Decimal text of numbers

`Binary64.shortest` finds the fewest decimal digits that read back as the same number, and of those
the nearest; `Binary64.text` lays them out, with a point or with an exponent.  `Binary64.sixPlaces`
writes a fixed number of places.
-/

namespace PlaybackRules

/-- The number of decimal digits of a natural; zero has none. -/
def digitCount (n : Nat) : Nat :=
  if n = 0 then 0 else 1 + digitCount (n / 10)

/-- The decimal digits of a natural, padded with leading zeros up to a width. -/
def paddedDigits (width n : Nat) : List Char :=
  let digits := Nat.toDigits 10 n
  List.replicate (width - digits.length) '0' ++ digits

/-- Drops the trailing zeros of a natural, counting them; `fuel` bounds how many. -/
def dropZeros : (fuel n dropped : Nat) → Nat × Nat
  | 0, n, dropped => (n, dropped)
  | fuel + 1, n, dropped =>
    if n != 0 && n % 10 == 0 then dropZeros fuel (n / 10) (dropped + 1) else (n, dropped)

/-- A positive decimal `digits * 10 ^ exponent`. -/
structure Decimal where
  digits : Nat
  exponent : Int
  deriving DecidableEq, Repr

namespace Decimal

/-- The least `e` with `num / den < 10 ^ e`, for a positive rational. -/
def magnitude (num den : Nat) : Int :=
  if den ≤ num then digitCount (num / den) else 1 - (digitCount ((den - 1) / num) : Int)

/-- The decimal without trailing zeros. -/
def trim (d : Decimal) : Decimal :=
  let (digits, dropped) := dropZeros (digitCount d.digits) d.digits 0
  ⟨digits, d.exponent + dropped⟩

/-- Where the decimal point stands in scientific notation: `d.ddd * 10 ^ point`. -/
def point (d : Decimal) : Int := d.exponent + digitCount d.digits - 1

/-- The text with a point among or around the digits. -/
def positional (d : Decimal) : List Char :=
  if 0 ≤ d.exponent then
    Nat.toDigits 10 d.digits ++ List.replicate d.exponent.toNat '0' ++ ['.', '0']
  else
    let places := (-d.exponent).toNat
    let padded := paddedDigits (places + 1) d.digits
    let whole := padded.length - places
    padded.take whole ++ '.' :: padded.drop whole

/-- The text with an exponent of at least two digits. -/
def scientific (d : Decimal) : List Char :=
  let digits := Nat.toDigits 10 d.digits
  let mantissa := if digits.length ≤ 1 then digits else digits.take 1 ++ '.' :: digits.drop 1
  let sign := if d.point < 0 then '-' else '+'
  mantissa ++ 'e' :: sign :: paddedDigits 2 d.point.natAbs

/-- Decimals from `0.0001` up to but not including `10 ^ 16` are written with a point. -/
def text (d : Decimal) : List Char :=
  if -4 ≤ d.point ∧ d.point < 16 then d.positional else d.scientific

end Decimal

namespace Binary64

/-- The gap in steps between a positive number and the next larger one. -/
def gapAbove (steps : Nat) : Nat := Nat.pow 2 (spareBits steps)

/-- The gap in steps between a positive number and the next smaller one, half as wide where the
exponent changes. -/
def gapBelow (steps : Nat) : Nat :=
  let gap := gapAbove steps
  if gap != 1 && steps == Nat.pow 2 52 * gap then gap / 2 else gap

/-- Do all decimals at this distance read back?  `num / den` is a count of steps; a decimal halfway
to a neighbour reads back when the significand is even. -/
def readsBack (steps num den : Nat) : Bool :=
  let low := (2 * steps - gapBelow steps) * den
  let high := (2 * steps + gapAbove steps) * den
  let even := steps / gapAbove steps % 2 == 0
  if even then low ≤ 2 * num && 2 * num ≤ high else low < 2 * num && 2 * num < high

/-- The two decimals with `count` digits next to a number that read back, the nearer one chosen, of
two equally near the one with the even last digit. -/
def decimalWith? (steps count : Nat) : Option Decimal :=
  let exponent := Decimal.magnitude steps one - count
  let up := Nat.pow 10 exponent.toNat
  let down := Nat.pow 10 (-exponent).toNat
  let floor := steps * down / (one * up)
  let candidate (digits : Nat) : Option Decimal :=
    if readsBack steps (digits * up * one) down then some ⟨digits, exponent⟩ else none
  match candidate floor, candidate (floor + 1) with
  | some a, some b =>
    if roundQuotient (steps * down) (one * up) == floor then some a else some b
  | some a, none => some a
  | none, b => b

/-- The shortest decimal that reads back as a positive number; seventeen digits always do. -/
def shortest (steps : Nat) : Decimal :=
  let found := (List.range 17).findSome? fun count => decimalWith? steps (count + 1)
  (found.getD ⟨0, 0⟩).trim

/-- The sign in front of a number. -/
def signText (negative : Bool) : List Char := if negative then ['-'] else []

/-- The text of a number, with the fewest digits that read back. -/
def text : Binary64 → String
  | nan => "nan"
  | infinite negative => if negative then "-inf" else "inf"
  | finite negative steps =>
    let magnitude := if steps == 0 then ['0', '.', '0'] else (shortest steps).text
    String.ofList (signText negative ++ magnitude)

/-- The text with six decimal places, rounded to nearest on the exact value, a tie to even. -/
def sixPlaces : Binary64 → String
  | finite negative steps =>
    let millionths := roundQuotient (steps * Nat.pow 10 6) one
    String.ofList (signText negative ++ Nat.toDigits 10 (millionths / Nat.pow 10 6) ++
      '.' :: paddedDigits 6 (millionths % Nat.pow 10 6))
  | other => other.text

end Binary64

end PlaybackRules
