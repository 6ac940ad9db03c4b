import PlaybackRules.Comparison
import PlaybackRules.Field
import PlaybackRules.Record.Reader
import PlaybackRules.Record.Writer

/-!
# Conditions

A condition compares what is observed of a field with a threshold, a scalar or a list of scalars,
each kept with its exact type.  A field whose name is not known is kept under that name, and its
condition never holds.  Conditions come in groups.
-/

namespace PlaybackRules

/-- The field of a condition, by its kind or by a name that is not known. -/
inductive FieldName where
  | known (field : Field)
  | unknown (name : String)
  deriving DecidableEq, Repr

namespace FieldName

def ofString (name : String) : FieldName :=
  match Field.ofName? name with
  | some field => known field
  | none => unknown name

def text : FieldName → String
  | known field => field.name
  | unknown name => name

/-- The field, if it is known. -/
def field? : FieldName → Option Field
  | known field => some field
  | unknown _ => none

def read : Reader FieldName
  | .str name => .ok (ofString name)
  | _ => .fault .union

end FieldName

/-- A threshold without parts. -/
inductive Scalar where
  | null
  | bool (b : Bool)
  | int (n : Int)
  | float (x : Binary64)
  | str (s : String)
  deriving DecidableEq, Repr, Inhabited

namespace Scalar

def toValue : Scalar → Value
  | null => .null
  | bool b => .bool b
  | int n => .int n
  | float x => .float x
  | str s => .str s

def ofValue? : Value → Option Scalar
  | .null => some null
  | .bool b => some (bool b)
  | .int n => some (int n)
  | .float x => some (float x)
  | .str s => some (str s)
  | _ => none

end Scalar

/-- A threshold: a scalar or a list of them, each kept with its exact type. -/
inductive Threshold where
  | scalar (s : Scalar)
  | list (items : List Scalar)
  deriving DecidableEq, Repr

namespace Threshold

def toValue : Threshold → Value
  | scalar s => s.toValue
  | list items => .ofList Scalar.toValue items

def ofValue? : Value → Option Threshold
  | .list items => (items.mapM Scalar.ofValue?).map list
  | value => (Scalar.ofValue? value).map scalar

def read : Reader Threshold := fun value => .ofOption .union (ofValue? value)

end Threshold

/-- A test of a field against a threshold. -/
structure Condition where
  field : FieldName
  operator : Operator
  value : Threshold := .scalar .null
  /-- Parameters of the observation. -/
  params : Entries := []

namespace Condition

/-- The threshold as a value. -/
def threshold (condition : Condition) : Value := condition.value.toValue

def read : Reader Condition := .record fun entries =>
  mk <$> Reader.required "field" FieldName.read entries
    <*> Reader.required "operator" (.named .operatorName Operator.ofName?) entries
    <*> Reader.optional "value" Threshold.read (.scalar .null) entries
    <*> Reader.optional "params" .object [] entries

def write (condition : Condition) : Value := .object [
  ("field", .str condition.field.text),
  ("operator", .str condition.operator.name),
  ("value", condition.value.toValue),
  ("params", .object condition.params)]

end Condition

/-- Conditions of which one has to hold; an empty group holds. -/
abbrev ConditionGroup := List Condition

namespace ConditionGroup

def read : Reader ConditionGroup := .record fun entries =>
  Reader.optional "conditions" (.list Condition.read) [] entries

def write (group : ConditionGroup) : Value :=
  .object [("conditions", .ofList Condition.write group)]

end ConditionGroup

/-- Groups all of which have to hold. -/
abbrev RuleConditions := List ConditionGroup

namespace RuleConditions

def read : Reader RuleConditions := .record fun entries =>
  Reader.optional "groups" (.list ConditionGroup.read) [] entries

def write (groups : RuleConditions) : Value :=
  .object [("groups", .ofList ConditionGroup.write groups)]

end RuleConditions

end PlaybackRules
