/-!
# Trace identifiers

A trace identifier ties together the log records of one pass of evaluation.  A scope sets the
current identifier while it is open and restores the one before when it closes.  A scope that is
made without an identifier of its own takes the current one, or a new one if none is set.
-/

namespace PlaybackRules

/-- A trace identifier: given by a caller, or the n-th one made. -/
inductive TraceId where
  | given (text : String)
  | generated (n : Nat)
  deriving DecidableEq, Repr

namespace TraceId

/-- The empty identifier, which stands for none. -/
def empty : TraceId := given ""

/-- Does it stand for none? -/
def isEmpty (id : TraceId) : Bool := id == empty

end TraceId

/-- The current identifier, the one bound into log records, and how many have been made. -/
structure TraceState where
  current : TraceId := .empty
  bound : Option TraceId := none
  generated : Nat := 0
  deriving DecidableEq, Repr

namespace TraceState

/-- Sets the identifier and binds it into log records. -/
def set (state : TraceState) (id : TraceId) : TraceState :=
  { state with current := id, bound := some id }

/-- Clears the identifier and takes it out of log records. -/
def clear (state : TraceState) : TraceState := { state with current := .empty, bound := none }

end TraceState

/-- A scope for one identifier, with the one to be restored when it closes. -/
structure TraceScope where
  id : TraceId
  previous : TraceId := .empty
  deriving DecidableEq, Repr

namespace TraceScope

/-- Makes a scope.  Its identifier is fixed now. -/
def make (state : TraceState) (id : Option String) : TraceScope × TraceState :=
  match id.filter (· != "") with
  | some text => ({ id := .given text }, state)
  | none =>
    if state.current.isEmpty then
      let n := state.generated + 1
      ({ id := .generated n }, { state with generated := n })
    else ({ id := state.current }, state)

/-- Opens a scope. -/
def enter (scope : TraceScope) (state : TraceState) : TraceScope × TraceState :=
  ({ scope with previous := state.current }, state.set scope.id)

/-- Closes a scope. -/
def exit (scope : TraceScope) (state : TraceState) : TraceState :=
  if scope.previous.isEmpty then state.clear else state.set scope.previous

end TraceScope

end PlaybackRules
