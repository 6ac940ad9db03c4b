import PlaybackRules.Text.Blank
import PlaybackRules.Text.Digit

/-!
# IPv4 addresses

An address is written as four decimal octets with points between them.  An octet has one to three
ASCII digits, no superfluous leading zero, and a value of at most 255.
-/

namespace PlaybackRules

/-- An IPv4 address. -/
structure IPv4 where
  bits : BitVec 32
  deriving DecidableEq, Repr

namespace IPv4

/-- Reads one octet. -/
def octet? (cs : List Char) : Option (BitVec 8) :=
  if cs.length > 3 || (cs.head? == some '0' && cs != ['0']) then none
  else (Text.natural? cs).bind fun n => if n < 256 then some (BitVec.ofNat 8 n) else none

/-- The address with four octets, the most significant first. -/
def ofOctets (a b c d : BitVec 8) : IPv4 := ⟨a ++ b ++ c ++ d⟩

/-- The octet that begins at the given bit. -/
def octetFrom (ip : IPv4) (start : Nat) : BitVec 8 := ip.bits.extractLsb' start 8

/-- Reads an address that stands alone. -/
def ofChars? (cs : List Char) : Option IPv4 :=
  match (Text.splitAt '.' cs).mapM octet? with
  | some [a, b, c, d] => some (ofOctets a b c d)
  | _ => none

/-- Reads an address, trimmed of blanks. -/
def parse? (s : String) : Option IPv4 := ofChars? (Text.trim Text.isBlank s.toList)

/-- The written form. -/
def text (ip : IPv4) : String :=
  ".".intercalate ([24, 16, 8, 0].map fun start => toString (ip.octetFrom start).toNat)

/-- Do two addresses agree on their top `count` bits? -/
def agree (count : Nat) (a b : IPv4) : Bool := a.bits >>> (32 - count) == b.bits >>> (32 - count)

end IPv4

end PlaybackRules
