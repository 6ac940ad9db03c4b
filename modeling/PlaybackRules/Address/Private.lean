import PlaybackRules.Address.IPv6
import PlaybackRules.Value

/-!
# Private addresses

An address counts as private when the registries of special purpose addresses set its block aside
for private, loopback, link-local, documentation or reserved use, and not as globally reachable.
-/

namespace PlaybackRules

/-- A block of addresses of `width` bits: those that agree with `base` on the top `count` bits. -/
structure Block (width : Nat) where
  base : BitVec width
  count : Nat

namespace Block

/-- Does an address lie in the block? -/
def holds {width : Nat} (block : Block width) (address : BitVec width) : Bool :=
  address >>> (width - block.count) == block.base >>> (width - block.count)

/-- The block of IPv4 addresses that starts at `a.b.c.d`. -/
def v4 (a b c d : BitVec 8) (count : Nat) : Block 32 := ⟨(IPv4.ofOctets a b c d).bits, count⟩

/-- The block of IPv6 addresses that starts with four groups, the other four being zero but for
the last. -/
def v6 (a b c d last : BitVec 16) (count : Nat) : Block 128 :=
  ⟨a ++ b ++ c ++ d ++ (0 : BitVec 48) ++ last, count⟩

end Block

namespace IPv4

/-- The private blocks. -/
def privateBlocks : List (Block 32) := [
  .v4 0 0 0 0 8, .v4 10 0 0 0 8, .v4 127 0 0 0 8, .v4 169 254 0 0 16, .v4 172 16 0 0 12,
  .v4 192 0 0 0 24, .v4 192 0 2 0 24, .v4 192 168 0 0 16, .v4 198 18 0 0 15, .v4 198 51 100 0 24,
  .v4 203 0 113 0 24, .v4 240 0 0 0 4]

/-- The globally reachable addresses within them. -/
def reachableBlocks : List (Block 32) := [.v4 192 0 0 9 32, .v4 192 0 0 10 32]

/-- Is it a private address? -/
def isPrivate (ip : IPv4) : Bool :=
  privateBlocks.any (·.holds ip.bits) && !reachableBlocks.any (·.holds ip.bits)

end IPv4

namespace IPv6

/-- The private blocks. -/
def privateBlocks : List (Block 128) := [
  .v6 0 0 0 0 1 128, .v6 0 0 0 0 0 128, .v6 0x64 0xFF9B 1 0 0 48, .v6 0x100 0 0 0 0 64,
  .v6 0x2001 0 0 0 0 23, .v6 0x2001 0xDB8 0 0 0 32, .v6 0x2002 0 0 0 0 16, .v6 0xFC00 0 0 0 0 7,
  .v6 0xFE80 0 0 0 0 10]

/-- The globally reachable addresses within them. -/
def reachableBlocks : List (Block 128) := [
  .v6 0x2001 1 0 0 1 128, .v6 0x2001 1 0 0 2 128, .v6 0x2001 3 0 0 0 32,
  .v6 0x2001 4 0x112 0 0 48, .v6 0x2001 0x20 0 0 0 28, .v6 0x2001 0x30 0 0 0 28]

/-- Is it a private address?  One that carries an IPv4 address follows that address. -/
def isPrivate (ip : IPv6) : Bool :=
  match ip.mapped? with
  | some inner => inner.isPrivate
  | none => privateBlocks.any (·.holds ip.bits) && !reachableBlocks.any (·.holds ip.bits)

end IPv6

/-- Does a text hold a private address of either kind, trimmed of blanks?  Any other text does
not. -/
def isPrivateAddress (s : String) : Bool :=
  let cs := Text.trim Text.isBlank s.toList
  match IPv4.ofChars? cs with
  | some ip => ip.isPrivate
  | none =>
    match IPv6.ofChars? cs with
    | some ip => ip.isPrivate
    | none => false

/-- Does an untyped value hold a private address?  Only a text can. -/
def isPrivateValue : Value → Bool
  | .str s => isPrivateAddress s
  | _ => false

end PlaybackRules
