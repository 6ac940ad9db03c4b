import PlaybackRules.Number.Decimal
import PlaybackRules.Text.Blank
import PlaybackRules.Text.Digit

/-!
# Reading numerals

A decimal numeral has digits before and after a point and may have an exponent; it reads as the
nearest binary number.  Integer numerals read exactly.  Either kind may be written loosely, with
white space around it or single underscores within.
-/

namespace PlaybackRules

/-- The number nearest to the decimal `± digits * 10 ^ exponent`. -/
def Binary64.ofDecimal (negative : Bool) (digits : Nat) (exponent : Int) : Binary64 :=
  let magnitude := digitCount digits + exponent
  if digits = 0 ∨ magnitude < -400 then .finite negative 0
  else if magnitude > 400 then .infinite negative
  else if 0 ≤ exponent then .ofRatio negative (digits * Nat.pow 10 exponent.toNat) 1
  else .ofRatio negative digits (Nat.pow 10 (-exponent).toNat)

namespace Numeral

/-- Reads an optional sign. -/
def takeSign : List Char → Bool × List Char
  | '-' :: cs => (true, cs)
  | '+' :: cs => (false, cs)
  | cs => (false, cs)

/-- Reads the digits at the front of a text, possibly none. -/
def takeDigits : List Char → List Nat × List Char
  | [] => ([], [])
  | c :: cs =>
    match Text.asciiDigit? c with
    | some d => let (digits, rest) := takeDigits cs; (d :: digits, rest)
    | none => ([], c :: cs)

/-- Reads the exponent that ends a numeral; without a mark for one it is zero. -/
def exponent? : List Char → Option Int
  | [] => some 0
  | c :: cs =>
    if c = 'e' ∨ c = 'E' then
      let (negative, cs) := takeSign cs
      match takeDigits cs with
      | (d :: digits, []) =>
        let n := Text.ofDigits (d :: digits)
        some (if negative then -n else n)
      | _ => none
    else none

/-- Reads a decimal numeral without sign: digits before or after a point, or both. -/
def decimal? (negative : Bool) (cs : List Char) : Option Binary64 :=
  let (whole, rest) := takeDigits cs
  let (fraction, rest) := match rest with
    | '.' :: cs => takeDigits cs
    | cs => ([], cs)
  if whole.isEmpty && fraction.isEmpty then none
  else (exponent? rest).map fun exponent =>
    .ofDecimal negative (Text.ofDigits (whole ++ fraction)) (exponent - fraction.length)

/-- Is the text one of some words, without regard to the case of ASCII letters? -/
def isWord (words : List String) (cs : List Char) : Bool :=
  words.any fun word => word.toList == cs.map Char.toLower

/-- Reads a binary number: a decimal numeral, an infinity or nan, with an optional sign. -/
def binary? (cs : List Char) : Option Binary64 :=
  let (negative, rest) := takeSign cs
  if isWord ["inf", "infinity"] rest then some (.infinite negative)
  else if isWord ["nan"] rest then some .nan
  else decimal? negative rest

/-- The text without its underscores, provided each stands alone and within the text. -/
def withoutUnderscores? (cs : List Char) : Option (List Char) :=
  let parts := Text.splitAt '_' cs
  if parts.any (·.isEmpty) then none else some parts.flatten

/-- Reads a text as a binary number.  White space may surround a numeral without underscores, and
underscores may stand within one that nothing surrounds. -/
def binaryOfText? (s : String) : Option Binary64 :=
  (binary? (Text.trim Text.isWhiteSpace s.toList)).orElse fun _ =>
    (withoutUnderscores? s.toList).bind binary?

/-! ### Integers -/

/-- Why a text is not read as an integer. -/
inductive Defect where
  | malformed
  | tooLong
  deriving DecidableEq, Repr

/-- The most digits that an integer numeral may have. -/
def digitLimit : Nat := 4300

/-- Reads a plain integer numeral: digits without a superfluous leading zero, possibly after a minus
sign.  It is too long by its front alone, whatever follows the digits; the sign counts. -/
def plain (cs : List Char) : Except Defect Int :=
  let (negative, rest) := match cs with
    | '-' :: rest => (true, rest)
    | rest => (false, rest)
  match takeDigits rest with
  | ([], _) => .error .malformed
  | ([0], []) => .ok 0
  | (0 :: _, _) => .error .malformed
  | (digits, tail) =>
    if digitLimit < negative.toNat + digits.length then .error .tooLong
    else if tail.isEmpty then
      let n : Int := Text.ofDigits digits
      .ok (if negative then -n else n)
    else .error .malformed

/-- Goes on after leading zeros, and underscores among them, the last of which is given.  Digits or
a minus sign may follow; where a point or nothing does, the last one stays. -/
def afterZeros? (last : Char) : List Char → Option (List Char)
  | [] => some [last]
  | c :: cs =>
    if c = '0' ∨ c = '_' then afterZeros? c cs
    else if ('1' ≤ c ∧ c ≤ '9') ∨ c = '-' then some (c :: cs)
    else if c = '.' then some (last :: c :: cs)
    else none

/-- The numeral without its leading zeros, if it begins like one. -/
def withoutLeadingZeros? : List Char → Option (List Char)
  | [] => none
  | c :: cs =>
    if c = '0' then afterZeros? c cs
    else if ('1' ≤ c ∧ c ≤ '9') ∨ c = '-' then some (c :: cs)
    else none

/-- The numeral without its fraction, if that is made of zeros. -/
def withoutZeroFraction (cs : List Char) : List Char :=
  match cs.span (· ≠ '.') with
  | (whole, _ :: zero :: zeros) => if (zero :: zeros).all (· == '0') then whole else cs
  | _ => cs

/-- The plain form of a loosely written numeral without sign. -/
def tidyMagnitude? (cs : List Char) : Option (List Char) :=
  (withoutLeadingZeros? (withoutZeroFraction cs)).map fun cs => (withoutUnderscores? cs).getD cs

/-- The plain form of a loosely written numeral, which may have white space around it, a sign of
either kind, leading zeros, single underscores, and zeros after a point. -/
def tidy? (cs : List Char) : Option (List Char) :=
  match Text.trim Text.isWhiteSpace cs with
  | '+' :: '-' :: _ => none
  | '+' :: cs => tidyMagnitude? cs
  | '-' :: cs => (tidyMagnitude? cs).map ('-' :: ·)
  | cs => tidyMagnitude? cs

/-- Reads a text as an integer.  A plain numeral may be too long; any other is tidied first, and
malformed if it has no plain form of the permitted length. -/
def integerOfText (s : String) : Except Defect Int :=
  match plain s.toList with
  | .error .malformed =>
    match (tidy? s.toList).map plain with
    | some (.ok n) => .ok n
    | _ => .error .malformed
  | result => result

/-- Reads a timestamp: an integer of 64 bits, or a decimal numeral whose digits, possibly none, end
at a point.  An exponent may follow the fraction only. -/
def timestamp? (cs : List Char) : Option (Int ⊕ Binary64) :=
  let (negative, rest) := takeSign cs
  match takeDigits rest with
  | (_, '.' :: _) => (decimal? negative rest).map .inr
  | ([], _) => none
  | (digits, []) =>
    let n : Int := Text.ofDigits digits
    if n < Nat.pow 2 63 then some (.inl (if negative then -n else n)) else none
  | _ => none

end Numeral

end PlaybackRules
