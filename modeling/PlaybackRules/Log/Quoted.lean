import PlaybackRules.Number.Decimal
import PlaybackRules.Text.Printable
import PlaybackRules.Value

/-!
# Values as people read them

In a log line for people a text without blanks and quotes stands bare.  Any other value is spelled
out: quoted texts, bracketed lists and objects, `True`, `False` and `None`.
-/

namespace PlaybackRules

namespace Text

/-- The hexadecimal digits of a number, exactly `width` of them. -/
def hexDigits : (width n : Nat) → List Char
  | 0, _ => []
  | width + 1, n => hexDigits width (n / 16) ++ [Nat.digitChar (n % 16)]

/-- A character within quotes of the given kind. -/
def quotedChar (mark c : Char) : List Char :=
  if c = mark ∨ c = '\\' then ['\\', c]
  else if c = '\n' then ['\\', 'n']
  else if c = '\r' then ['\\', 'r']
  else if c = '\t' then ['\\', 't']
  else if isPrintable c then [c]
  else if c.toNat < 0x100 then '\\' :: 'x' :: hexDigits 2 c.toNat
  else if c.toNat < 0x10000 then '\\' :: 'u' :: hexDigits 4 c.toNat
  else '\\' :: 'U' :: hexDigits 8 c.toNat

/-- A text in single quotes, or in double quotes if that spares escaping the single ones. -/
def quoted (s : String) : List Char :=
  let cs := s.toList
  let mark := if cs.contains '\'' && !cs.contains '"' then '"' else '\''
  mark :: cs.flatMap (quotedChar mark) ++ [mark]

/-- The characters that keep a text from standing bare. -/
def quotedMarks : List Char := [' ', '\t', '=', '\r', '\n', '"', '\'']

end Text

namespace Value

mutual
/-- A value spelled out. -/
def spelled : Value → List Char
  | null => "None".toList
  | bool b => (if b then "True" else "False").toList
  | int n => (toString n).toList
  | float x => x.text.toList
  | str s => Text.quoted s
  | list items => '[' :: spelledItems items ++ [']']
  | object entries => '\x7b' :: spelledEntries entries ++ ['\x7d']

/-- The members of a list with commas between them. -/
def spelledItems : List Value → List Char
  | [] => []
  | [item] => spelled item
  | item :: items => spelled item ++ ',' :: ' ' :: spelledItems items

/-- The entries of an object with commas between them. -/
def spelledEntries : List (String × Value) → List Char
  | [] => []
  | [(key, value)] => Text.quoted key ++ ':' :: ' ' :: spelled value
  | (key, value) :: entries =>
    Text.quoted key ++ ':' :: ' ' :: spelled value ++ ',' :: ' ' :: spelledEntries entries
end

/-- A value in a log line: a simple text stands bare, all else is spelled out. -/
def shown : Value → List Char
  | str s =>
    if s.toList.any Text.quotedMarks.contains then Text.quoted s else s.toList
  | value => value.spelled

end Value

end PlaybackRules
