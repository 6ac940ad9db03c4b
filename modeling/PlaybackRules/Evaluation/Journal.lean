import PlaybackRules.Evidence
import PlaybackRules.Session
import PlaybackRules.Settings

/-!
# The journal of an evaluation

Everything that happens during an evaluation besides its result is one list of events in order:
which evaluators were asked, when pending answers began and ended, what was logged and what was
counted.  A `Journaled` computation gives a result, or the failure that ended it, together with its
events; the events before a failure are kept.
-/

namespace PlaybackRules

/-- The two ways to evaluate: without waiting, or waiting for pending answers. -/
inductive Mode where
  | sync | async
  deriving DecidableEq, Repr, Inhabited

def Mode.name : Mode → String
  | sync => "sync"
  | async => "async"

/-- Why a condition failed closed, as it is counted. -/
inductive Reason where
  | unknownField | error | pending
  deriving DecidableEq, Repr

def Reason.name : Reason → String
  | unknownField => "unknown_field"
  | error => "error"
  | pending => "pending"

/-- What is logged. -/
inductive Entry where
  | noEvaluator (field ruleId : String)
  | conditionFailed (field ruleId : String) (failure : Failure)
  | invalidResult (field ruleId : String)
  | pendingDiscarded (field ruleId : String)
  | suspended (ruleId : String)
  | ruleEvaluated (result : EvaluationResult) (mode : Mode)
  | ruleFailed (ruleId : String) (failure : Failure)
  | transcodeChanged (session : Session) (ruleCount : Nat)

namespace Entry

def level : Entry → LogLevel
  | noEvaluator .. => .warning
  | conditionFailed .. => .error
  | invalidResult .. => .error
  | pendingDiscarded .. => .warning
  | suspended .. => .error
  | ruleEvaluated .. => .debug
  | ruleFailed .. => .error
  | transcodeChanged .. => .info

/-- The text of the record. -/
def text : Entry → String
  | noEvaluator .. => "No evaluator found for condition field"
  | conditionFailed .. => "Error evaluating condition"
  | invalidResult .. => "Invalid evaluator result"
  | pendingDiscarded .. => "Async evaluator called synchronously"
  | suspended .. => "Synchronous rule evaluation suspended"
  | ruleEvaluated .. => "Rule evaluated"
  | ruleFailed .. => "Error evaluating rule"
  | transcodeChanged .. => "Transcode state changed, re-evaluating rules"

/-- What a failure says, as a field of a record. -/
def errorField (failure : Failure) : Entries :=
  match failure.message? with
  | some message => [("error", .str message)]
  | none => []

/-- The fields of the record. -/
def fields : Entry → Entries
  | noEvaluator field ruleId => [("field", .str field), ("rule_id", .str ruleId)]
  | conditionFailed field ruleId failure =>
    [("field", .str field), ("rule_id", .str ruleId)] ++ errorField failure
  | invalidResult field ruleId => [("field", .str field), ("rule_id", .str ruleId)]
  | pendingDiscarded field ruleId => [("field", .str field), ("rule_id", .str ruleId)]
  | suspended ruleId => ("rule_id", .str ruleId) :: errorField .suspended
  | ruleEvaluated result mode => [
      ("rule_id", .str result.ruleId), ("matched", .bool result.matched),
      ("matched_groups", .ofList .int result.matchedGroups), ("mode", .str mode.name)]
  | ruleFailed ruleId failure => ("rule_id", .str ruleId) :: errorField failure
  | transcodeChanged session ruleCount => [
      ("session_id", .str session.id),
      ("video_decision", .ofOption .str session.videoDecision),
      ("audio_decision", .ofOption .str session.audioDecision),
      ("rule_count", .int ruleCount)]

end Entry

/-- What happens during an evaluation. -/
inductive Event where
  /-- The evaluator of a condition is called. -/
  | invoked (condition : Condition)
  /-- The context is asked whether an address is private. -/
  | asked (address : String)
  /-- A pending answer begins to be worked out. -/
  | began (condition : Condition)
  /-- A pending answer has been worked out. -/
  | ended (condition : Condition)
  /-- A promised answer is called off. -/
  | cancelled (condition : Condition)
  /-- A promised answer has arrived. -/
  | fulfilled (condition : Condition)
  | logged (entry : Entry)
  /-- A condition that failed closed is counted. -/
  | failed (reason : Reason)
  /-- The evaluation of a rule is counted. -/
  | evaluated (mode : Mode)
  /-- The match of a rule is counted. -/
  | matched (ruleId : String)

/-- A result, or the failure that ended the computation, with the events up to there. -/
structure Journaled (α : Type) where
  outcome : Except Failure α
  events : List Event := []

namespace Journaled

variable {α β : Type}

/-- A result without events. -/
def done (a : α) : Journaled α := { outcome := .ok a }

/-- A failure without events. -/
def fail (failure : Failure) : Journaled α := { outcome := .error failure }

/-- Events alone. -/
def emit (events : List Event) : Journaled Unit := { outcome := .ok (), events }

/-- Goes on with the result; the events follow each other. -/
def andThen (x : Journaled α) (f : α → Journaled β) : Journaled β :=
  match x.outcome with
  | .ok a => { outcome := (f a).outcome, events := x.events ++ (f a).events }
  | .error failure => { outcome := .error failure, events := x.events }

/-- Gives a failure as a result instead of ending with it. -/
def attempt (x : Journaled α) : Journaled (Except Failure α) :=
  { outcome := .ok x.outcome, events := x.events }

instance : Monad Journaled where
  pure := done
  bind := andThen

theorem done_andThen (a : α) (f : α → Journaled β) : (done a).andThen f = f a := rfl

theorem andThen_done (x : Journaled α) : x.andThen done = x := by
  obtain ⟨outcome, events⟩ := x
  cases outcome <;> simp [andThen, done]

theorem andThen_andThen {γ : Type} (x : Journaled α) (f : α → Journaled β) (g : β → Journaled γ) :
    (x.andThen f).andThen g = x.andThen fun a => (f a).andThen g := by
  obtain ⟨outcome, events⟩ := x
  cases outcome with
  | error failure => rfl
  | ok a =>
    simp only [andThen]
    cases (f a).outcome <;> simp

instance : LawfulMonad Journaled :=
  LawfulMonad.mk' Journaled andThen_done done_andThen andThen_andThen

/-- Runs a computation on every member of a list, in order. -/
def forEach (f : α → Journaled β) : List α → Journaled (List β)
  | [] => done []
  | a :: as => do return (← f a) :: (← forEach f as)

/-- The settings in force, without which the computation fails. -/
def settings (config : Configuration) : Journaled Settings :=
  match config with
  | .ok settings => done settings
  | .error faults => fail (.settings faults)

end Journaled

end PlaybackRules
