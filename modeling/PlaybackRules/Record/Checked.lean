import PlaybackRules.Record.Fault

/-!
# Checked readings

A reading either gives its result or lists faults.  Readings of the parts of a record are combined
side by side, so the faults of all parts are collected; `andThen` chains a check on a result.
-/

namespace PlaybackRules

/-- The outcome of a reading: a result, or the faults found. -/
inductive Checked (α : Type) where
  | ok (result : α)
  | faulty (faults : List Fault)
  deriving Repr

namespace Checked

variable {α β : Type}

/-- A reading with a single fault at this place. -/
def fault (kind : FaultKind) : Checked α := faulty [{ kind }]

/-- The result if there is one, else the given fault at this place. -/
def ofOption (kind : FaultKind) : Option α → Checked α
  | some a => ok a
  | none => fault kind

/-- Applies a function to the result. -/
def map (f : α → β) : Checked α → Checked β
  | ok a => ok (f a)
  | faulty faults => faulty faults

/-- Combines two readings side by side. -/
def seq (f : Checked (α → β)) (a : Checked α) : Checked β :=
  match f, a with
  | ok f, ok a => ok (f a)
  | ok _, faulty faults => faulty faults
  | faulty faults, ok _ => faulty faults
  | faulty first, faulty second => faulty (first ++ second)

instance : Applicative Checked where
  map := map
  pure := ok
  seq f a := seq f (a ())

/-- Checks a result further. -/
def andThen (a : Checked α) (check : α → Checked β) : Checked β :=
  match a with
  | ok a => check a
  | faulty faults => faulty faults

/-- The faults as seen from one step further up. -/
def under (step : Step) : Checked α → Checked α
  | ok a => ok a
  | faulty faults => faulty (faults.map (·.under step))

/-- Reads every member of a list. -/
def items (read : β → Checked α) (xs : List β) : Checked (List α) := go 0 xs
where
  go (index : Nat) : List β → Checked (List α)
    | [] => ok []
    | x :: xs => seq (map List.cons ((read x).under (.item index))) (go (index + 1) xs)

/-- The result as an outcome with faults. -/
def toExcept : Checked α → Except (List Fault) α
  | ok a => .ok a
  | faulty faults => .error faults

end Checked

end PlaybackRules
