import PlaybackRules.Number.Binary64

/-!
# The extended number line

Integers of any size and binary numbers are compared at their exact places on one line, counted in
steps of the least positive binary number, with an infinity at each end.
-/

namespace PlaybackRules

/-- A place on the extended number line. -/
inductive Place where
  | bottom
  | steps (n : Int)
  | top
  deriving DecidableEq, Repr

namespace Place

/-- Is the first place strictly below the second? -/
def below : Place → Place → Bool
  | bottom, bottom => false
  | bottom, _ => true
  | steps m, steps n => m < n
  | steps _, top => true
  | _, _ => false

/-- The place of an integer. -/
def ofInt (n : Int) : Place := steps (n * Binary64.one)

end Place

/-- The place of a number; nan has none. -/
def Binary64.place? : Binary64 → Option Place
  | nan => none
  | infinite negative => some (if negative then .bottom else .top)
  | finite negative n => some (.steps (if negative then -n else n))

/-- Is the first number strictly below the second?  Never with nan. -/
def Binary64.below (a b : Binary64) : Bool :=
  match a.place?, b.place? with
  | some p, some q => p.below q
  | _, _ => false

end PlaybackRules
