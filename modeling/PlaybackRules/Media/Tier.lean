import PlaybackRules.Failure
import PlaybackRules.Value

/-!
# Resolution tiers

A frame falls into the highest tier whose least width or least height it reaches, so a letterboxed
frame keeps the tier of its width and a cropped one that of its height.  A dimension that is
missing or not positive is left out of account; without any the tier is unknown.
-/

namespace PlaybackRules

/-- The tiers, highest first. -/
inductive Tier where
  | uhd4k | fhd1080 | hd720 | sd480 | sd | unknown
  deriving DecidableEq, Repr, Inhabited

namespace Tier

/-- All tiers. -/
def all : List Tier := [uhd4k, fhd1080, hd720, sd480, sd, unknown]

/-- The written form. -/
def name : Tier → String
  | uhd4k => "4K"
  | fhd1080 => "1080p"
  | hd720 => "720p"
  | sd480 => "480p"
  | sd => "SD"
  | unknown => "unknown"

/-- The number by which tiers are ordered. -/
def ordinal : Tier → Nat
  | uhd4k => 2160
  | fhd1080 => 1080
  | hd720 => 720
  | sd480 => 480
  | sd => 360
  | unknown => 0

/-- The ordinal of the tier with a written form, zero if there is none. -/
def ordinalOfName (name : String) : Nat :=
  match all.find? fun tier => tier.name == name with
  | some tier => tier.ordinal
  | none => 0

/-- The least width and the least height of the tiers that have them, highest first. -/
def bounds : List (Tier × Int × Int) :=
  [(uhd4k, 3200, 2000), (fhd1080, 1800, 1000), (hd720, 1200, 700), (sd480, 700, 460)]

/-- A dimension counts if it is positive. -/
def usable (dimension : Option Place) : Option Place :=
  dimension.filter (Place.ofInt 0).below

/-- Does a dimension reach a bound? -/
def reaches (dimension : Option Place) (bound : Int) : Bool :=
  dimension.any fun place => !place.below (.ofInt bound)

/-- The tier of a frame. -/
def ofFrame (width height : Option Place) : Tier :=
  let width := usable width
  let height := usable height
  if width.isNone && height.isNone then unknown
  else
    match bounds.find? fun (_, w, h) => reaches width w || reaches height h with
    | some (tier, _, _) => tier
    | none => sd

/-- The tier of a frame with integer dimensions. -/
def ofSize (width height : Option Int) : Tier :=
  ofFrame (width.map .ofInt) (height.map .ofInt)

/-- Reads a dimension; a value that does not count as true is a missing one, and nan is never
positive. -/
def dimension (value : Value) : Except Failure (Option Place) :=
  if !value.isTruthy then .ok none
  else
    match value with
    | .bool _ | .int _ | .float _ => .ok value.place?
    | _ => .error .dimensionKind

/-- The tier of a frame with untyped dimensions. -/
def ofValues (width height : Value) : Except Failure Tier := do
  return ofFrame (← dimension width) (← dimension height)

/-- The ordinal of a tier named by an untyped value. -/
def ordinalOfValue : Value → Nat
  | .str name => ordinalOfName name
  | _ => 0

end Tier

end PlaybackRules
