import PlaybackRules.Address.IPv4
import PlaybackRules.Failure
import PlaybackRules.Number.Numeral
import PlaybackRules.Value

/-!
# Address ranges

A range is written as an address, a slash, and the number of leading bits that its members share.
The bits of the address past that number are immaterial, so `192.168.1.7/24` covers all of
`192.168.1`.  The bit count may be written with decimal digits of any script and with leading
zeros.
-/

namespace PlaybackRules

namespace IPv4

/-- Reads the bit count of a range.  A text that is not made of digits between blanks is no bit
count; one that is must be a decimal numeral between white space, of no more digits than a numeral
may have. -/
def bitCount? (cs : List Char) : Except Failure (Option Nat) :=
  let digits := Text.trim Text.isBlank cs
  if digits.isEmpty || !digits.all Text.isDigit then .ok none
  else if digits.length > Numeral.digitLimit || digits != Text.trim Text.isWhiteSpace cs then
    .error .rangeBitCount
  else
    match digits.mapM Text.decimalValue? with
    | some values => .ok (some (Text.ofDigits values))
    | none => .error .rangeBitCount

/-- Does an address lie within the range written as `range`?  A malformed address or range holds
nothing. -/
def isWithin (ip range : String) : Except Failure Bool :=
  match parse? ip, range.toList.span (· ≠ '/') with
  | some address, (base, _ :: rest) =>
    match ofChars? (Text.trim Text.isBlank base) with
    | none => .ok false
    | some start =>
      match bitCount? rest with
      | .error e => .error e
      | .ok none => .ok false
      | .ok (some count) => .ok (count ≤ 32 && agree count address start)
  | _, _ => .ok false

/-- Reads an untyped address; only a text can hold one. -/
def ofValue? : Value → Option IPv4
  | .str s => parse? s
  | _ => none

/-- Does an untyped address lie within an untyped range?  Only texts can. -/
def valueWithin : Value → Value → Except Failure Bool
  | .str ip, .str range => isWithin ip range
  | _, _ => .ok false

end IPv4

end PlaybackRules
