import PlaybackRules.Failure
import PlaybackRules.Value

/-!
# Great-circle distance

The distance is that of the haversine formula on a sphere of the Earth's mean radius.  The
differences of latitude and longitude are formed first, exactly between integers; then the steps
follow in the order in which a failure of one hides those of the later ones.

Sines, cosines, powers and the angle of a point come from outside the formula, which is given them
as a `Trigonometry`; what runs is the formula with those of the machine.  The angle that it ends
with is multiplied out to kilometres as a binary number, with the rounding of the machine.
-/

namespace PlaybackRules

/-- A coordinate in degrees, an integer of any size or a binary number. -/
inductive Coordinate where
  | whole (n : Int)
  | real (x : Binary64)
  deriving DecidableEq, Repr

namespace Coordinate

/-- The machine float of a coordinate. -/
def toFloat : Coordinate → Except Failure Float
  | whole n =>
    match Binary64.ofInt? n with
    | some x => .ok x.toFloat
    | none => .error .coordinateRange
  | real x => .ok x.toFloat

/-- The difference of two coordinates. -/
def minus : Coordinate → Coordinate → Except Failure Float
  | whole m, whole n => (whole (m - n)).toFloat
  | a, b => do return (← a.toFloat) - (← b.toFloat)

/-- Reads a coordinate, a boolean counting as 0 or 1. -/
def ofValue : Value → Except Failure Coordinate
  | .bool b => .ok (whole b.toNat)
  | .int n => .ok (whole n)
  | .float x => .ok (real x)
  | _ => .error .coordinateKind

end Coordinate

/-- Degrees to radians. -/
def radians (degrees : Float) : Float := degrees * (3.141592653589793 / 180.0)

/-- The square root; a negative number has none. -/
def squareRoot (x : Float) : Except Failure Float :=
  if x < 0 then .error .negativeRoot else .ok x.sqrt

/-- The mean radius of the Earth in kilometres. -/
def earthRadius : Binary64 := .finite false (6371 * Binary64.one)

/-- The functions that the formula of the distance is given. -/
structure Trigonometry where
  sin : Float → Float
  cos : Float → Float
  pow : Float → Float → Float
  atan2 : Float → Float → Float

namespace Trigonometry

/-- The functions of the machine. -/
def machine : Trigonometry := ⟨Float.sin, Float.cos, Float.pow, Float.atan2⟩

variable (t : Trigonometry)

/-- The sine of an angle; an infinity has none. -/
def sine (angle : Float) : Except Failure Float :=
  if angle.isInf then .error .unboundedAngle else .ok (t.sin angle)

/-- The cosine of an angle; an infinity has none. -/
def cosine (angle : Float) : Except Failure Float :=
  if angle.isInf then .error .unboundedAngle else .ok (t.cos angle)

/-- The length in kilometres of an arc on the Earth, from the square of half the chord that the arc
has on a sphere of radius one. -/
def arc (a : Float) : Except Failure Binary64 := do
  let root ← squareRoot a
  let rest ← squareRoot (1 - a)
  return earthRadius * (.finite false (2 * Binary64.one) * .ofFloat (t.atan2 root rest))

/-- The distance in kilometres of two points, from the differences of their latitudes and
longitudes and the latitudes themselves. -/
def haversine (dLat dLon : Float) (lat₁ lat₂ : Coordinate) : Except Failure Binary64 := do
  let sLat ← t.sine (radians dLat / 2)
  let c₁ ← t.cosine (radians (← lat₁.toFloat))
  let c₂ ← t.cosine (radians (← lat₂.toFloat))
  let sLon ← t.sine (radians dLon / 2)
  t.arc (t.pow sLat 2 + c₁ * c₂ * t.pow sLon 2)

/-- The distance in kilometres between two points given by latitude and longitude. -/
def greatCircle (lat₁ lon₁ lat₂ lon₂ : Binary64) : Except Failure Binary64 :=
  t.haversine (lat₂.toFloat - lat₁.toFloat) (lon₂.toFloat - lon₁.toFloat) (.real lat₁) (.real lat₂)

/-- The distance between two points with untyped coordinates, none if one of them is missing. -/
def distanceOfValues (lat₁ lon₁ lat₂ lon₂ : Value) : Except Failure (Option Binary64) :=
  if [lat₁, lon₁, lat₂, lon₂].any (· matches .null) then .ok none
  else do
    let dLat ← difference lat₂ lat₁
    let dLon ← difference lon₂ lon₁
    some <$> t.haversine dLat dLon (← Coordinate.ofValue lat₁) (← Coordinate.ofValue lat₂)
where
  difference (a b : Value) : Except Failure Float := do
    (← Coordinate.ofValue a).minus (← Coordinate.ofValue b)

end Trigonometry

/-- The distance between two points with untyped coordinates, with the functions of the machine. -/
def distanceOfValues : Value → Value → Value → Value → Except Failure (Option Binary64) :=
  Trigonometry.machine.distanceOfValues

end PlaybackRules
