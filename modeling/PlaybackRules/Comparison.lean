import PlaybackRules.Value
import PlaybackRules.Text.CaseFold

/-!
# Comparison of an observation with a threshold

Texts compare without regard to letter case, and a boolean equals only a boolean.  The ordering
operators apply to real numbers alone, the membership operators to a list threshold; any other
combination does not hold.
-/

namespace PlaybackRules

/-- The comparison operators of conditions. -/
inductive Operator where
  | eq | neq | gt | gte | lt | lte | isIn | notIn
  deriving DecidableEq, Repr, Inhabited

namespace Operator

/-- All operators. -/
def all : List Operator := [eq, neq, gt, gte, lt, lte, isIn, notIn]

/-- The written form. -/
def name : Operator → String
  | eq => "eq"
  | neq => "neq"
  | gt => "gt"
  | gte => "gte"
  | lt => "lt"
  | lte => "lte"
  | isIn => "in"
  | notIn => "not_in"

/-- The operator with a written form. -/
def ofName? (name : String) : Option Operator := all.find? fun op => op.name == name

end Operator

namespace Value

/-- Equality of an observation and a threshold: letter case of two texts is ignored, and a boolean
equals nothing but a boolean. -/
def equals : Value → Value → Bool
  | str s, str t => Text.caseFold s == Text.caseFold t
  | bool a, bool b => a == b
  | bool _, _ => false
  | _, bool _ => false
  | a, b => same a b

/-- The place of a real number; booleans are none. -/
def real? : Value → Option Place
  | int n => some (.ofInt n)
  | float x => x.place?
  | _ => none

/-- Does a relation of places hold between two real numbers?  Never where one is missing. -/
def ordered (relation : Place → Place → Bool) (a b : Value) : Bool :=
  match a.real?, b.real? with
  | some p, some q => relation p q
  | _, _ => false

/-- Applies an operator to an observation and a threshold. -/
def compare (actual : Value) (op : Operator) (expected : Value) : Bool :=
  match op with
  | .eq => actual.equals expected
  | .neq => !actual.equals expected
  | .gt => ordered (fun p q => q.below p) actual expected
  | .gte => ordered (fun p q => !p.below q) actual expected
  | .lt => ordered (fun p q => p.below q) actual expected
  | .lte => ordered (fun p q => !q.below p) actual expected
  | .isIn =>
    match expected with
    | list items => items.any actual.equals
    | _ => false
  | .notIn =>
    match expected with
    | list items => !items.any actual.equals
    | _ => false

/-- Applies the operator that an untyped value names; without one nothing holds. -/
def compareNamed (actual op expected : Value) : Bool :=
  match op with
  | str name => (Operator.ofName? name).any fun op => actual.compare op expected
  | _ => false

end Value

end PlaybackRules
