/-!
# Faults of a record

A record that cannot be read is answered with the full list of its faults, each with the path to
the value at fault.
-/

namespace PlaybackRules

/-- What is wrong with a value. -/
inductive FaultKind where
  | missing
  | stringType
  | intType
  | intParsing
  | intSize
  | intFromFloat
  | finiteNumber
  | floatType
  | floatParsing
  | boolType
  | boolParsing
  | timeType
  | timeParsing
  | operatorName
  | levelName
  | recordType
  | listType
  | objectType
  | greaterThan
  | greaterThanEqual
  | union
  deriving DecidableEq, Repr

/-- The written form. -/
def FaultKind.name : FaultKind → String
  | missing => "missing"
  | stringType => "string_type"
  | intType => "int_type"
  | intParsing => "int_parsing"
  | intSize => "int_parsing_size"
  | intFromFloat => "int_from_float"
  | finiteNumber => "finite_number"
  | floatType => "float_type"
  | floatParsing => "float_parsing"
  | boolType => "bool_type"
  | boolParsing => "bool_parsing"
  | timeType => "datetime_type"
  | timeParsing => "datetime_parsing"
  | operatorName => "enum"
  | levelName => "literal_error"
  | recordType => "model_type"
  | listType => "list_type"
  | objectType => "dict_type"
  | greaterThan => "greater_than"
  | greaterThanEqual => "greater_than_equal"
  | union => "union"

/-- A step from a record or list to a part of it. -/
inductive Step where
  | key (name : String)
  | item (index : Nat)
  deriving DecidableEq, Repr

/-- The written form. -/
def Step.text : Step → String
  | key name => name
  | item index => toString index

/-- A fault and the path to it from the top. -/
structure Fault where
  kind : FaultKind
  path : List Step := []
  deriving DecidableEq, Repr

namespace Fault

/-- The path with points between its steps. -/
def pathText (fault : Fault) : String := ".".intercalate (fault.path.map Step.text)

/-- The fault as seen from one step further up. -/
def under (step : Step) (fault : Fault) : Fault := { fault with path := step :: fault.path }

/-- The kinds and paths of faults, ordered, each once. -/
def report (faults : List Fault) : List (String × String) :=
  let pairs := faults.map fun fault => (fault.kind.name, fault.pathText)
  let sorted := pairs.mergeSort fun a b => a.1 < b.1 || (a.1 == b.1 && a.2 ≤ b.2)
  sorted.eraseDups

end Fault

end PlaybackRules
