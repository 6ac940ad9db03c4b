import Mathlib
import PlaybackRules.Distance
import PlaybackRules.Number.Place

/-!
# Signs of machine floats

A machine float is worked on as an unpacked number, which has a sign unless it is nan
(`Machine.sign`), and it lies below zero if the sign is minus and it is no zero
(`Machine.lt_zero_iff`).  Every square root but that of the negative zero has a plus sign
(`Machine.sign_squareRoot`), and a machine float that does not lie below zero holds a number that
does not (`Machine.ofFloat_not_below`).
-/

namespace PlaybackRules.Machine

open Float.Model (UnpackedFloat Format)
open Float.Model.UnpackedFloat (Sign unpackSign roundWithAccuracy)

/-! ## Unpacked numbers -/

/-- The sign of an unpacked number; nan counts as positive. -/
def sign : UnpackedFloat → Sign
  | .infinity s | .zero s | .finite s .. => s
  | .notANumber => .positive

@[simp] theorem sign_infinity (s : Sign) : sign (.infinity s) = s := rfl

@[simp] theorem sign_zero (s : Sign) : sign (.zero s) = s := rfl

@[simp] theorem sign_notANumber : sign .notANumber = .positive := rfl

@[simp] theorem sign_finite (s : Sign) (mantissa : Nat) (exponent : Int) (hpos : 0 < mantissa) :
    sign (.finite s mantissa exponent hpos) = s := rfl

section Unpacked

variable {spec : Format} {u v : UnpackedFloat}

theorem sign_unpack {bits : BitVec spec.numBits} (h : unpackSign bits = 0#1) :
    sign (.unpack spec bits) = .positive := by
  unfold UnpackedFloat.unpack
  rw [h]
  extract_lets
  split_ifs <;> rfl

theorem unpackSign_pack (h : sign u = .positive) : unpackSign (u.pack spec) = 0#1 := by
  cases u with
  | notANumber => exact UnpackedFloat.unpackSign_packComponents ..
  | infinity s =>
      obtain rfl : s = .positive := h
      exact UnpackedFloat.unpackSign_packComponents ..
  | zero s =>
      obtain rfl : s = .positive := h
      exact UnpackedFloat.unpackSign_packComponents ..
  | finite s mantissa exponent hpos =>
      obtain rfl : s = .positive := h
      unfold UnpackedFloat.pack UnpackedFloat.packedInfinity
      extract_lets
      split_ifs <;> exact UnpackedFloat.unpackSign_packComponents ..

@[simp] theorem sign_roundWithAccuracy (s : Sign) (mantissa : Nat) (exponent : Int)
    (accuracy : UnpackedFloat.Accuracy) :
    sign (roundWithAccuracy spec s mantissa exponent accuracy) = s := by
  unfold roundWithAccuracy
  dsimp only
  split_ifs <;> rfl

theorem sign_sqrt (hle : sign u = .positive ∨ u = .zero .negative) (hzero : u ≠ .zero .negative) :
    sign (u.sqrt spec) = .positive := by
  have hu := hle.resolve_right hzero
  cases u with
  | notANumber => rfl
  | infinity s =>
      obtain rfl : s = .positive := hu
      rfl
  | zero s => exact hu
  | finite s =>
      obtain rfl : s = .positive := hu
      exact sign_roundWithAccuracy ..

end Unpacked

/-! ## Machine floats -/

theorem sign_ofModel_pack {u : UnpackedFloat} (h : sign u = .positive) :
    sign (Float.Model.pack u).unpack = .positive := sign_unpack (unpackSign_pack h)

theorem eq_of_unpack {x : Float} {u : UnpackedFloat} (h : x.toModel.unpack = u) :
    x = .ofModel (.pack u) := by
  subst h
  exact (Float.ofBits_toBits x).symm

/-- A number lies below zero if it has a minus sign and is no zero. -/
theorem lt_zero_iff {x : Float} :
    x < 0 ↔ sign x.toModel.unpack = .negative ∧ x.toModel.unpack ≠ .zero .negative := by
  have hlt : x < 0 ↔ x.toModel.unpack.lt (.zero .positive) = true := decide_eq_true_iff
  rw [hlt]
  cases x.toModel.unpack with
  | notANumber => simp [UnpackedFloat.lt, UnpackedFloat.compare]
  | infinity s => cases s <;> simp [UnpackedFloat.lt, UnpackedFloat.compare]
  | zero s => cases s <;> simp [UnpackedFloat.lt, UnpackedFloat.compare]
  | finite s => cases s <;> simp [UnpackedFloat.lt, UnpackedFloat.compare]

theorem not_lt_zero_iff {x : Float} :
    ¬x < 0 ↔ sign x.toModel.unpack = .positive ∨ x.toModel.unpack = .zero .negative := by
  rw [lt_zero_iff, not_and_or, not_not]
  refine or_congr_left ?_
  cases sign x.toModel.unpack <;> simp

theorem sign_squareRoot {x root : Float} (h : squareRoot x = .ok root)
    (hx : x.toModel.unpack ≠ .zero .negative) : sign root.toModel.unpack = .positive := by
  unfold squareRoot at h
  split_ifs at h with hlt
  obtain rfl := Except.ok.inj h
  exact sign_ofModel_pack (sign_sqrt (not_lt_zero_iff.1 hlt) hx)

/-- The root of the negative zero is a zero, and that of what it leaves of one is positive. -/
theorem squareRoot_of_negative_zero {x root rest : Float} (hx : x.toModel.unpack = .zero .negative)
    (hroot : squareRoot x = .ok root) (hrest : squareRoot (1 - x) = .ok rest) :
    (root == 0) = true ∧ 0 < rest := by
  -- the negative zero has one word only, so both roots can be evaluated
  rw [eq_of_unpack hx] at hroot hrest
  obtain rfl := Except.ok.inj hroot
  obtain rfl := Except.ok.inj hrest
  decide +kernel

theorem not_lt_zero_of_beq {x : Float} (h : (x == 0) = true) : ¬x < 0 := by
  have hbeq : x.toModel.unpack.beq (.zero .positive) = true := h
  rw [not_lt_zero_iff]
  cases hx : x.toModel.unpack with
  | notANumber => exact .inl rfl
  | infinity s =>
      rw [hx] at hbeq
      cases s <;> cases hbeq
  | zero s => cases s <;> simp
  | finite s =>
      rw [hx] at hbeq
      cases s <;> cases hbeq

/-! ## Words -/

theorem toNat_lt_of_unpackSign {word : UInt64}
    (h : @unpackSign .binary64 word.toBitVec = 0#1) : word.toNat < 2 ^ 63 := by
  have hbit : word.toNat >>> 63 % 2 = 0 := congrArg BitVec.toNat h
  have hlt := word.toNat_lt
  rw [Nat.shiftRight_eq_div_pow] at hbit
  omega

/-- A word without the sign bit holds a number that does not lie below zero. -/
theorem ofBits_not_below {word : UInt64} (h : word.toNat < 2 ^ 63) :
    (Binary64.ofBits word).below .zero = false := by
  have hdiv : word.toNat / Nat.pow 2 63 = 0 := Nat.div_eq_of_lt h
  have hsteps : ∀ n : Nat, (Binary64.finite false n).below .zero = false := fun n => by
    simp [Binary64.below, Binary64.place?, Place.below, Binary64.zero]
  unfold Binary64.ofBits
  simp only [hdiv]
  split_ifs
  · rfl
  · rfl
  · exact hsteps _
  · exact hsteps _

/-- A machine float that does not lie below zero holds a number that does not. -/
theorem ofFloat_not_below {x : Float} (h : ¬x < 0) :
    (Binary64.ofFloat x).below .zero = false := by
  rcases not_lt_zero_iff.1 h with hplus | hzero
  · have hbits : x.toBits.toBitVec = x.toModel.unpack.pack .binary64 :=
      congrArg (·.toBits.toBitVec) (eq_of_unpack rfl)
    refine ofBits_not_below (toNat_lt_of_unpackSign ?_)
    rw [hbits]
    exact unpackSign_pack hplus
  · rw [eq_of_unpack hzero]
    decide +kernel

end PlaybackRules.Machine
