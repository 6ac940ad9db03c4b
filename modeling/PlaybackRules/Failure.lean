import PlaybackRules.Record.Fault

/-!
# Failures of an evaluation

`Failure` names the causes for which observing a field, or evaluating a rule, gives no answer.
-/

namespace PlaybackRules

inductive Failure where
  /-- A coordinate is neither a number nor missing. -/
  | coordinateKind
  /-- An integer coordinate lies past the range of binary numbers. -/
  | coordinateRange
  /-- The sine or cosine of an infinity. -/
  | unboundedAngle
  /-- The square root of a negative number, at points a rounding error past opposite. -/
  | negativeRoot
  /-- The bit count of an address range is no readable numeral. -/
  | rangeBitCount
  /-- A frame dimension is neither a number nor missing. -/
  | dimensionKind
  /-- A client description is neither a text nor missing. -/
  | textExpected
  /-- A bit rate too large to be expressed in millions. -/
  | bitrateRange
  /-- A window is not a number of hours. -/
  | windowKind
  /-- A window of nan hours. -/
  | windowNaN
  /-- A window that is too long, or that begins outside the calendar. -/
  | windowRange
  /-- The settings cannot be read. -/
  | settings (faults : List Fault)
  /-- No rule is attached to the context. -/
  | noRule
  /-- Evaluation gave up its turn where nothing can wait for it. -/
  | suspended
  /-- A failure that someone else's code reports. -/
  | reported (message : String)
  deriving DecidableEq, Repr

/-- What a failure says, where it is this program that words it or a reporter's own text. -/
def Failure.message? : Failure → Option String
  | noRule => some "EvaluationContext has no rule attached"
  | suspended => some "Rule evaluation suspended on the synchronous path"
  | reported message => some message
  | _ => none

end PlaybackRules
