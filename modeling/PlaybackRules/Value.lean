import PlaybackRules.Number.Place

/-!
# Values

Thresholds, parameters and observations are values of a data format: null, booleans, integers of
any size, binary numbers, texts, lists, and objects with ordered keys.

`Value.same` is deep equality.  It compares numbers by their place on the number line, a boolean
counting as 0 or 1, and texts letter for letter; the order of an object's keys is immaterial.
-/

namespace PlaybackRules

inductive Value where
  | null
  | bool (b : Bool)
  | int (n : Int)
  | float (x : Binary64)
  | str (s : String)
  | list (items : List Value)
  | object (entries : List (String × Value))
  deriving Repr, Inhabited

/-- Keys with their values, in order. -/
abbrev Entries := List (String × Value)

namespace Value

/-- Does it count as true in a condition?  Null, zeros and empty texts, lists and objects do not. -/
def isTruthy : Value → Bool
  | null => false
  | bool b => b
  | int n => n != 0
  | float x => !x.isZero
  | str s => s != ""
  | list items => !items.isEmpty
  | object entries => !entries.isEmpty

/-- The place of a number on the number line, a boolean counting as 0 or 1. -/
def place? : Value → Option Place
  | bool b => some (.ofInt b.toNat)
  | int n => some (.ofInt n)
  | float x => x.place?
  | _ => none

mutual
/-- Deep equality. -/
def same : Value → Value → Bool
  | null, null => true
  | str s, str t => s == t
  | list xs, list ys => sameItems xs ys
  | object xs, object ys => everyEntry xs ys && ys.all fun (key, value) => someEntry key value xs
  | a, b =>
    match a.place?, b.place? with
    | some p, some q => p == q
    | _, _ => false

/-- Equality item by item. -/
def sameItems : List Value → List Value → Bool
  | [], [] => true
  | x :: xs, y :: ys => same x y && sameItems xs ys
  | _, _ => false

/-- Has every entry an equal one among `ys`? -/
def everyEntry : List (String × Value) → List (String × Value) → Bool
  | [], _ => true
  | (key, value) :: xs, ys =>
    (ys.any fun (key', value') => key == key' && same value value') && everyEntry xs ys

/-- Is there an entry equal to the given one? -/
def someEntry (key' : String) (value' : Value) : List (String × Value) → Bool
  | [] => false
  | (key, value) :: xs => key == key' && same value value' || someEntry key' value' xs
end

end Value

/-- Sets the value of a key: in its place when the key is there, at the end otherwise. -/
def Entries.set (entries : Entries) (key : String) (value : Value) : Entries :=
  match entries with
  | [] => [(key, value)]
  | (k, v) :: rest => if k == key then (k, value) :: rest else (k, v) :: Entries.set rest key value

/-- The value of a key, if the key is there. -/
def Entries.get? (entries : Entries) (key : String) : Option Value := entries.lookup key

end PlaybackRules
