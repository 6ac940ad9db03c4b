/-!
# Lower case for marker searches

Client names are lower-cased before they are searched for ASCII markers.  Three kinds of character
have a small form with an ASCII letter in it: the ASCII capitals, the Kelvin sign and the dotted
capital I.  Every other character is kept as it is; its small form holds no ASCII letter, so no
ASCII marker can tell the two apart.
-/

namespace PlaybackRules.Text

/-- The small form of a character, as far as an ASCII marker can see it. -/
def lowerChar (c : Char) : List Char :=
  if 'A' ≤ c ∧ c ≤ 'Z' then [Char.ofNat (c.toNat + 32)]
  else if c = '\u212A' then ['k']
  else if c = '\u0130' then ['i', '\u0307']
  else [c]

/-- The small form of a text, character by character. -/
def lower (s : String) : List Char := s.toList.flatMap lowerChar

end PlaybackRules.Text
