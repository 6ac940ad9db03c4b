import PlaybackRules.Evaluation.Journal

/-!
# Work that may give up its turn

A computation may give up its turn, and goes on when the turn is given back.  Without anybody to
give it back, what is left of the computation is abandoned and its outcome is lost.
-/

namespace PlaybackRules

/-- A computation that finishes, or gives up its turn after some events, with a rest to go on with
once the turn is given back. -/
inductive Resumable (α : Type) where
  | finished (run : Journaled α)
  | suspended (before : List Event) (rest : Resumable α)

/-- The computation up to the end of its first turn; what is left then is abandoned. -/
def Resumable.once {α : Type} : Resumable α → Journaled α
  | finished run => run
  | suspended before _ => { outcome := .error .suspended, events := before }

/-- Work that gives up its turn a number of times before its outcome. -/
structure Work (α : Type) where
  turns : Nat
  outcome : Except Failure α

namespace Work

variable {α : Type} (work : Work α)

/-- The work as a computation. -/
def resumable : Resumable α :=
  Nat.repeat (.suspended []) work.turns (.finished { outcome := work.outcome })

/-- Runs work that is expected not to give up its turn. -/
def runAtOnce : Except Failure α := work.resumable.once.outcome

end Work

end PlaybackRules
