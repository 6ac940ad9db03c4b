import PlaybackRules.Moment.Text
import PlaybackRules.Moment.Unix
import PlaybackRules.Number.Numeral
import PlaybackRules.Record.Checked
import PlaybackRules.Value

/-!
# Readers for the values of a record

A reader turns an untyped value into a typed one, or says what is wrong with it.  Readers of
numbers, booleans and moments also take the texts and numbers that plainly stand for one.  A
record's reader combines `required` and `optional` fields; keys it does not name are ignored.
-/

namespace PlaybackRules

/-- A reader of untyped values. -/
abbrev Reader (α : Type) := Value → Checked α

namespace Reader

/-- Any value. -/
def any : Reader Value := .ok

/-- A text. -/
def string : Reader String
  | .str s => .ok s
  | _ => .fault .stringType

/-- The integers of 64 bits with a sign. -/
def isWord (n : Int) : Bool := -(Nat.pow 2 63 : Nat) ≤ n && n < (Nat.pow 2 63 : Nat)

/-- The integer that a binary number is, if it has no fraction. -/
def whole? : Binary64 → Option Int
  | .finite negative steps =>
    if steps % Binary64.one = 0 then
      let n : Int := (steps / Binary64.one : Nat)
      some (if negative then -n else n)
    else none
  | _ => none

/-- An integer.  A binary number must be whole and lie strictly between `-2 ^ 63` and `2 ^ 63`; a
text must be an integer numeral. -/
def int : Reader Int
  | .int n => .ok n
  | .bool b => .ok b.toNat
  | .float x =>
    if !x.isFinite then .fault .finiteNumber
    else
      match whole? x with
      | some n => if n.natAbs < Nat.pow 2 63 then .ok n else .fault .intSize
      | none => .fault .intFromFloat
  | .str s =>
    match Numeral.integerOfText s with
    | .ok n => .ok n
    | .error .malformed => .fault .intParsing
    | .error .tooLong => .fault .intSize
  | _ => .fault .intType

/-- A binary number. -/
def float : Reader Binary64
  | .float x => .ok x
  | .bool b => .ofOption .floatType (Binary64.ofInt? b.toNat)
  | .int n => .ofOption .floatType (Binary64.ofInt? n)
  | .str s => .ofOption .floatParsing (Numeral.binaryOfText? s)
  | _ => .fault .floatType

/-- The words for false and for true. -/
def booleanWords : List (List String × Bool) :=
  [(["0", "off", "f", "false", "n", "no"], false), (["1", "on", "t", "true", "y", "yes"], true)]

/-- The boolean that a word stands for, without regard to the case of ASCII letters. -/
def booleanOfText? (s : String) : Option Bool :=
  (booleanWords.find? fun (words, _) => Numeral.isWord words s.toList).map (·.2)

/-- The boolean that an integer stands for. -/
def booleanOfInt? (n : Int) : Option Bool :=
  if n = 0 then some false else if n = 1 then some true else none

/-- A boolean, or 0 or 1, or a word for one.  A number that is no integer of 64 bits is of the wrong
type. -/
def bool : Reader Bool
  | .bool b => .ok b
  | .int n => if isWord n then .ofOption .boolParsing (booleanOfInt? n) else .fault .boolType
  | .float x =>
    match whole? x with
    | some n =>
      if n.natAbs < Nat.pow 2 63 then .ofOption .boolParsing (booleanOfInt? n) else .fault .boolType
    | none => .fault .boolType
  | .str s => .ofOption .boolParsing (booleanOfText? s)
  | _ => .fault .boolType

/-- The time that a text stands for: a written time, or a timestamp. -/
def stampOfText? (s : String) : Option Stamp :=
  match Stamp.ofChars? s.toList with
  | some stamp => some stamp
  | none =>
    match Numeral.timestamp? s.toList with
    | some (.inl n) => Stamp.ofUnix? n
    | some (.inr x) => Stamp.ofUnixFloat? x
    | none => none

/-- A time as it was given, with or without an offset. -/
def stamp : Reader Stamp
  | .str s => .ofOption .timeParsing (stampOfText? s)
  | .int n =>
    match Binary64.ofInt? n with
    | some _ => .ofOption .timeParsing (Stamp.ofUnix? n)
    | none => .fault .timeType
  | .float x => .ofOption .timeParsing (Stamp.ofUnixFloat? x)
  | _ => .fault .timeType

/-- A moment; a time without an offset is in UTC. -/
def moment : Reader Moment := fun value => (stamp value).map Stamp.moment

/-- A value that may be null. -/
def nullable {α : Type} (read : Reader α) : Reader (Option α)
  | .null => .ok none
  | value => (read value).map some

/-- A list whose members are all read alike. -/
def list {α : Type} (read : Reader α) : Reader (List α)
  | .list items => .items read items
  | _ => .fault .listType

/-- An object with any entries. -/
def object : Reader Entries
  | .object entries => .ok entries
  | _ => .fault .objectType

/-- A record, read from its entries. -/
def record {α : Type} (read : Entries → Checked α) : Reader α
  | .object entries => read entries
  | _ => .fault .recordType

/-- One of the texts that name something, else the given fault. -/
def named {α : Type} (kind : FaultKind) (ofName? : String → Option α) : Reader α
  | .str s => .ofOption kind (ofName? s)
  | _ => .fault kind

/-- A field that must be there. -/
def required {α : Type} (key : String) (read : Reader α) (entries : Entries) : Checked α :=
  match entries.get? key with
  | some value => (read value).under (.key key)
  | none => (Checked.fault .missing).under (.key key)

/-- A field that has a default. -/
def optional {α : Type} (key : String) (read : Reader α) (default : α) (entries : Entries) :
    Checked α :=
  match entries.get? key with
  | some value => (read value).under (.key key)
  | none => .ok default

end Reader

end PlaybackRules
