import PlaybackRules.Proofs.FurtherPeer
import PlaybackRules.Proofs.Replay
import PlaybackRules.Proofs.Rounding
import PlaybackRules.Proofs.Signs

/-!
# Distances and the functions of angles

The formula of the distance is given the functions of angles, so what is known of a distance goes
back to what is laid down of these.  Two laws on the angle of a point are enough.  By the first it
does not lie below zero unless the point lies below the axis (`Trigonometry.Lawful`), and then no
distance does (`Trigonometry.distance_not_below`): the root of a number that is itself not below
zero has a plus sign, or it is that of the negative zero, whose point lies ahead on the axis.  By
the second it is half a turn at most (`Trigonometry.WithinHalfTurn`), and then no distance goes
farther than once around the Earth (`Trigonometry.greatCircle_within`).
-/

namespace PlaybackRules

/-! ## Products -/

namespace Binary64

theorem mul_finite (negative : Bool) (k steps : Nat) :
    finite false k * finite negative steps = ofSteps negative (roundSteps (k * steps) one) := by
  have hmul : finite false k * finite negative steps =
      mul (finite false k) (finite negative steps) := rfl
  rw [hmul, mul, Bool.false_bne]

theorem mul_infinite (negative : Bool) (k : Nat) :
    finite false k * infinite negative = if k == 0 then nan else infinite negative := by
  have hmul : finite false k * infinite negative =
      mul (finite false k) (infinite negative) := rfl
  rw [hmul, mul, Bool.false_bne]

theorem not_below_ofSteps (steps : Nat) : (ofSteps false steps).below zero = false := by
  have hzero : zero.size = 0 := rfl
  rw [ofSteps_false, below_ofSize, hzero]
  exact decide_eq_false not_lt_zero

/-- The product with a number above zero does not lie below zero if the other factor does not. -/
theorem mul_not_below (k : Nat) {x : Binary64} (h : x.below zero = false) :
    (finite false k * x).below zero = false := by
  rcases x with _ | (_ | _) | ⟨_ | _, steps⟩
  · rfl
  · rw [mul_infinite]
    split_ifs <;> rfl
  · cases h
  · rw [mul_finite]
    exact not_below_ofSteps _
  · -- a finite number with a minus sign that does not lie below zero is the negative zero
    have hle : ¬-(steps : Int) < 0 := of_decide_eq_false h
    obtain rfl : steps = 0 := by omega
    have hlimit : 0 < limit := by decide +kernel
    rw [mul_finite, Nat.mul_zero, roundSteps_zero one_pos, ofSteps, if_pos hlimit]
    rfl

/-- The product with a number above zero is no larger than that of a bound for the other factor. -/
theorem size_mul_le {k bound : Nat} (hlimit : roundSteps (k * bound) one < limit) {x : Binary64}
    (h : x.size ≤ bound) : (finite false k * x).size ≤ roundSteps (k * bound) one := by
  rcases x with _ | (_ | _) | ⟨_ | _, steps⟩
  · exact bot_le
  · exact absurd (top_le_iff.1 h) (ENat.natCast_ne_top bound)
  · rw [mul_infinite]
    split_ifs <;> exact bot_le
  · have hsteps : steps ≤ bound := ENat.natCast_le_natCast.1 h
    have hround : roundSteps (k * steps) one ≤ roundSteps (k * bound) one :=
      roundSteps_mono one_pos one_pos (Nat.mul_le_mul_right one (Nat.mul_le_mul_left k hsteps))
    rw [mul_finite, ofSteps_false, size_ofSize, if_pos (hround.trans_lt hlimit)]
    exact ENat.natCast_le_natCast.2 hround
  · rw [mul_finite, size_ofSteps_true]
    exact bot_le

end Binary64

/-- Half a turn, as an angle. -/
def halfTurn : Binary64 := .ofRatio false 3141592653589793 1000000000000000

/-- The circumference of the Earth in kilometres, rounded up. -/
def circumference : Binary64 := .finite false (40031 * Binary64.one)

/-- Once around the Earth is what an angle of half a turn comes to. -/
theorem circumference_not_below {angle : Binary64} (h : halfTurn.below angle = false) :
    circumference.below (earthRadius * (.finite false (2 * Binary64.one) * angle)) = false := by
  obtain ⟨bound, hhalf, hdouble, hround, hlimit⟩ : ∃ bound,
      halfTurn = .ofSize (bound : Nat) ∧
      Binary64.roundSteps (2 * Binary64.one * bound) Binary64.one < Binary64.limit ∧
      Binary64.roundSteps (6371 * Binary64.one *
        Binary64.roundSteps (2 * Binary64.one * bound) Binary64.one) Binary64.one ≤
          40031 * Binary64.one ∧
      40031 * Binary64.one < Binary64.limit :=
    ⟨884279719003555 * Nat.pow 2 1026, by decide +kernel, by decide +kernel, by decide +kernel,
      by decide +kernel⟩
  rw [hhalf, Binary64.below_ofSize] at h
  have hangle : angle.size ≤ bound := not_lt.1 (of_decide_eq_false h)
  have hsize := Binary64.size_mul_le (hround.trans_lt hlimit) (Binary64.size_mul_le hdouble hangle)
  show (Binary64.ofSize ((40031 * Binary64.one : Nat) : ℕ∞)).below _ = false
  rw [Binary64.below_ofSize]
  exact decide_eq_false (not_lt.2 (hsize.trans (ENat.natCast_le_natCast.2 hround)))

namespace Trigonometry

/-! ## Laws -/

/-- What is laid down of the angle of a point: it does not lie below zero if the ordinate has a plus
sign, and it is a zero for a point ahead on the axis. -/
structure Lawful (t : Trigonometry) : Prop where
  not_below : ∀ y x, Machine.sign y.toModel.unpack = .positive → ¬t.atan2 y x < 0
  ahead : ∀ y x, (y == 0) = true → 0 < x → (t.atan2 y x == 0) = true

/-- What is laid down of the size of the angle of a point: it is half a turn at most. -/
def WithinHalfTurn (t : Trigonometry) : Prop :=
  ∀ y x, halfTurn.below (.ofFloat (t.atan2 y x)) = false

/-- The functions where the distances from a place on the equator to itself and to the opposite one
ask for them. -/
def equatorial : Trigonometry where
  sin angle := if angle == 0 then 0 else 1
  cos _ := 1
  pow base _ := base * base
  atan2 y _ := if y == 0 then 0 else 1.5707963267948966

theorem lawful_equatorial : equatorial.Lawful where
  not_below y x _ := by
    show ¬(if y == 0 then 0 else 1.5707963267948966 : Float) < 0
    split_ifs <;> decide +kernel
  ahead y x hy _ := by
    show ((if y == 0 then 0 else 1.5707963267948966 : Float) == 0) = true
    rw [if_pos hy]
    decide +kernel

theorem withinHalfTurn_equatorial : equatorial.WithinHalfTurn := by
  intro y x
  show halfTurn.below (.ofFloat (if y == 0 then 0 else 1.5707963267948966)) = false
  split_ifs <;> decide +kernel

variable {t : Trigonometry}

/-! ## Arcs -/

theorem arc_eq_ok {a : Float} {length : Binary64} (h : t.arc a = .ok length) :
    ∃ root rest, squareRoot a = .ok root ∧ squareRoot (1 - a) = .ok rest ∧
      length = earthRadius * (.finite false (2 * Binary64.one) * .ofFloat (t.atan2 root rest)) := by
  obtain ⟨root, hroot, h⟩ := ok_of_bind h
  obtain ⟨rest, hrest, h⟩ := ok_of_bind h
  exact ⟨root, rest, hroot, hrest, (Except.ok.inj h).symm⟩

theorem arc_not_below (law : t.Lawful) {a : Float} {length : Binary64}
    (h : t.arc a = .ok length) : length.below .zero = false := by
  obtain ⟨root, rest, hroot, hrest, rfl⟩ := arc_eq_ok h
  have hangle : ¬t.atan2 root rest < 0 := by
    -- the negative zero is its own root, so the law on plus signs does not apply to it
    by_cases hzero : a.toModel.unpack = .zero .negative
    · obtain ⟨hroot, hrest⟩ := Machine.squareRoot_of_negative_zero hzero hroot hrest
      exact Machine.not_lt_zero_of_beq (law.ahead root rest hroot hrest)
    · exact law.not_below root rest (Machine.sign_squareRoot hroot hzero)
  exact Binary64.mul_not_below _ (Binary64.mul_not_below _ (Machine.ofFloat_not_below hangle))

theorem arc_within (law : t.WithinHalfTurn) {a : Float} {length : Binary64}
    (h : t.arc a = .ok length) : circumference.below length = false := by
  obtain ⟨root, rest, -, -, rfl⟩ := arc_eq_ok h
  exact circumference_not_below (law root rest)

/-! ## Distances -/

variable {lat₁ lon₁ lat₂ lon₂ distance : Binary64}

/-- A distance is the length of some arc. -/
theorem exists_arc_of_greatCircle (h : t.greatCircle lat₁ lon₁ lat₂ lon₂ = .ok distance) :
    ∃ a, t.arc a = .ok distance := by
  unfold greatCircle at h
  rw [haversine_real] at h
  obtain ⟨sLat, -, h⟩ := ok_of_bind h
  obtain ⟨c₁, -, h⟩ := ok_of_bind h
  obtain ⟨c₂, -, h⟩ := ok_of_bind h
  obtain ⟨sLon, -, h⟩ := ok_of_bind h
  exact ⟨_, h⟩

/-- No distance goes farther than once around the Earth. -/
theorem greatCircle_within (law : t.WithinHalfTurn)
    (h : t.greatCircle lat₁ lon₁ lat₂ lon₂ = .ok distance) :
    circumference.below distance = false := by
  obtain ⟨a, harc⟩ := exists_arc_of_greatCircle h
  exact arc_within law harc

/-- No distance lies below zero. -/
theorem distance_not_below (law : t.Lawful) {a b : Session}
    (h : t.distance a b = .ok (some distance)) : distance.below .zero = false := by
  unfold Trigonometry.distance at h
  split at h
  case h_1 =>
      obtain ⟨found, hfound, h⟩ := ok_of_bind h
      obtain rfl := Option.some.inj (Except.ok.inj h)
      obtain ⟨chord, harc⟩ := exists_arc_of_greatCircle hfound
      exact arc_not_below law harc
  case h_2 => exact absurd (Except.ok.inj h) nofun

end Trigonometry

end PlaybackRules
