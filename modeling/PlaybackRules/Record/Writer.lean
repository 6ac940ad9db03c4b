import PlaybackRules.Moment.Text
import PlaybackRules.Value

/-!
# Writers for the values of a record

The counterparts of the readers: each turns a typed value into an untyped one that reads back.
-/

namespace PlaybackRules

namespace Value

/-- A value that may be missing; a missing one is null. -/
def ofOption {α : Type} (write : α → Value) : Option α → Value
  | some a => write a
  | none => null

/-- A list whose members are all written alike. -/
def ofList {α : Type} (write : α → Value) (items : List α) : Value := list (items.map write)

/-- A moment as its written form. -/
def ofMoment (m : Moment) : Value := str m.text

end Value

end PlaybackRules
