import PlaybackRules.Address.IPv4

/-!
# IPv6 addresses

An address is eight groups of one to four hexadecimal digits with colons between them.  One pair of
colons may stand for one or more groups of zero, and the last two groups may be written as an IPv4
address.  A scope, set off by a percent sign, is read and dropped.
-/

namespace PlaybackRules

/-- An IPv6 address. -/
structure IPv6 where
  bits : BitVec 128
  deriving DecidableEq, Repr

namespace IPv6

/-- The value of a hexadecimal digit. -/
def hexDigit? (c : Char) : Option Nat :=
  if '0' ≤ c ∧ c ≤ '9' then some (c.toNat - 48)
  else if 'a' ≤ c ∧ c ≤ 'f' then some (c.toNat - 87)
  else if 'A' ≤ c ∧ c ≤ 'F' then some (c.toNat - 55)
  else none

/-- Reads one group. -/
def group? (cs : List Char) : Option Nat :=
  if cs.isEmpty || cs.length > 4 then none
  else (cs.mapM hexDigit?).map fun digits => digits.foldl (fun n d => 16 * n + d) 0

/-- The two groups of an IPv4 address. -/
def groupsOf (ip : IPv4) : List Nat := [ip.bits.toNat / 65536, ip.bits.toNat % 65536]

/-- Reads groups with colons between them; the last may be an IPv4 address if `tail` allows. -/
def groups? (tail : Bool) : List (List Char) → Option (List Nat)
  | [] => some []
  | [last] =>
    if tail && last.contains '.' then (IPv4.ofChars? last).map groupsOf
    else (group? last).map ([·])
  | part :: parts => do return (← group? part) :: (← groups? tail parts)

/-- Reads a possibly empty run of groups. -/
def run? (tail : Bool) (cs : List Char) : Option (List Nat) :=
  if cs.isEmpty then some [] else groups? tail (Text.splitAt ':' cs)

/-- The parts before and after the first pair of colons. -/
def splitPair : List Char → Option (List Char × List Char)
  | ':' :: ':' :: rest => some ([], rest)
  | c :: rest => (splitPair rest).map fun (before, after) => (c :: before, after)
  | [] => none

/-- The address with eight groups. -/
def ofGroups? (groups : List Nat) : Option IPv6 :=
  if groups.length = 8 then
    some ⟨BitVec.ofNat 128 (groups.foldl (fun n g => 65536 * n + g) 0)⟩
  else none

/-- Reads an address without scope. -/
def plain? (cs : List Char) : Option IPv6 :=
  match splitPair cs with
  | none => (run? true cs).bind ofGroups?
  | some (before, after) => do
    let high ← run? false before
    let low ← run? true after
    let missing := 8 - (high.length + low.length)
    if missing = 0 then none else ofGroups? (high ++ List.replicate missing 0 ++ low)

/-- Reads an address that stands alone, with or without a scope. -/
def ofChars? (cs : List Char) : Option IPv6 :=
  if cs.contains '/' then none
  else
    match cs.span (· ≠ '%') with
    | (address, []) => plain? address
    | (address, _ :: scope) =>
      if scope.isEmpty || scope.contains '%' then none else plain? address

/-- The IPv4 address that an address of the form `::ffff:a.b.c.d` carries. -/
def mapped? (ip : IPv6) : Option IPv4 :=
  if ip.bits >>> 32 == 0xFFFF then some ⟨ip.bits.truncate 32⟩ else none

end IPv6

end PlaybackRules
