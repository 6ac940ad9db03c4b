/-!
# Blanks

Two sets of white space are in use.  Addresses are trimmed of every character that counts as space
in a text, the four information separators among them; numerals are trimmed of the Unicode
property White_Space, which leaves those separators out.
-/

namespace PlaybackRules.Text

/-- The Unicode property White_Space. -/
def isWhiteSpace (c : Char) : Bool :=
  let n := c.toNat
  (0x09 ≤ n && n ≤ 0x0D) || n == 0x20 || n == 0x85 || n == 0xA0 || n == 0x1680 ||
    (0x2000 ≤ n && n ≤ 0x200A) || n == 0x2028 || n == 0x2029 || n == 0x202F || n == 0x205F ||
    n == 0x3000

/-- White space and the information separators. -/
def isBlank (c : Char) : Bool :=
  isWhiteSpace c || (0x1C ≤ c.toNat && c.toNat ≤ 0x1F)

/-- Drops from both ends the characters of a class. -/
def trim (drop : Char → Bool) (cs : List Char) : List Char :=
  ((cs.dropWhile drop).reverse.dropWhile drop).reverse

/-- The parts of a text between the occurrences of a separator; there is always one. -/
def splitAt (separator : Char) : List Char → List (List Char)
  | [] => [[]]
  | c :: cs =>
    let parts := splitAt separator cs
    if c = separator then [] :: parts
    else (c :: parts.headD []) :: parts.tail

/-- Does a text occur within another? -/
def isWithin (needle : List Char) : List Char → Bool
  | [] => needle.isEmpty
  | c :: cs => needle.isPrefixOf (c :: cs) || isWithin needle cs

end PlaybackRules.Text
