import Mathlib.Algebra.Order.Field.Basic
import Mathlib.Algebra.Order.Ring.Int
import Mathlib.Algebra.Ring.Int.Parity
import Mathlib.Data.Rat.Cast.Order
import Mathlib.Tactic.FieldSimp
import Mathlib.Tactic.Linarith
import PlaybackRules.Proofs.Rounding

/-!
# Rounding to the nearest

What `roundQuotient` and `Binary64.roundSteps` come to, told without a computation: the integer
nearest to a number (`IsNearest`), and the binary number nearest to it, which has 53 significant
bits (`Binary64.IsRounded`); where two are nearest, it is the even one.  Each is the only such
number (`IsNearest.unique`, `Binary64.IsRounded.unique`).
-/

namespace PlaybackRules

/-! ## Integers -/

/-- An integer is nearest to a number, and even where it is half way to another one. -/
structure IsNearest (x : ℚ) (n : Int) : Prop where
  near : |x - n| ≤ 1 / 2
  even : |x - n| = 1 / 2 → Even n

theorem IsNearest.unique {x : ℚ} {m n : Int} (hm : IsNearest x m) (hn : IsNearest x n) : m = n := by
  by_contra hne
  -- two different integers that near are neighbours, with the number half way between them
  have hapart : 1 ≤ |m - n| := Int.one_le_abs (sub_ne_zero.2 hne)
  have htriangle : |(m : ℚ) - n| ≤ |x - m| + |x - n| := by
    rw [abs_sub_comm x m]
    exact abs_sub_le ..
  have hcast : ((|m - n| : Int) : ℚ) = |(m : ℚ) - n| := by rw [Int.cast_abs, Int.cast_sub]
  have hapart' : (1 : ℚ) ≤ |(m : ℚ) - n| := by
    rw [← hcast]
    exact_mod_cast hapart
  have hm' : |x - m| = 1 / 2 := by linarith [hm.near, hn.near]
  have hn' : |x - n| = 1 / 2 := by linarith [hm.near, hn.near]
  have hone : |m - n| = 1 := by
    have hle : ((|m - n| : Int) : ℚ) ≤ 1 := by linarith
    exact le_antisymm (by exact_mod_cast hle) hapart
  have heven : Even |m - n| := even_abs.2 ((hm.even hm').sub (hn.even hn'))
  rw [hone] at heven
  exact absurd heven (by decide)

/-- The distance of a quotient from an integer, multiplied out. -/
theorem abs_div_sub (num n : Int) {den : Int} (hden : 0 < den) :
    |(num : ℚ) / den - n| = ((|2 * num - 2 * (n * den)| : Int) : ℚ) / (2 * den) := by
  have hpos : (0 : ℚ) < den := Int.cast_pos.2 hden
  have hscaled : (num : ℚ) / den - n = (2 * num - 2 * (n * den)) / (2 * den) := by field_simp
  push_cast
  rw [hscaled, abs_div, abs_of_pos (mul_pos two_pos hpos)]

theorem isNearest_roundQuotient (num : Nat) {den : Nat} (hden : 0 < den) :
    IsNearest ((num : ℚ) / den) (roundQuotient num den : Nat) := by
  have hnear := roundQuotient_near num hden
  have heven : _ → roundQuotient num den % 2 = 0 := roundQuotient_even hden
  generalize roundQuotient num den = n at hnear heven ⊢
  have hpos : (0 : ℚ) < den := Nat.cast_pos.2 hden
  have hhalf : (1 : ℚ) / 2 = den / (2 * den) := by field_simp
  have hdistance := abs_div_sub num n (Int.natCast_pos.2 hden)
  rw [Int.cast_natCast, Int.cast_natCast, ← Int.natCast_mul] at hdistance
  generalize n * den = product at hnear heven hdistance
  refine ⟨?_, fun htie => ?_⟩
  · have hle : |2 * (num : Int) - 2 * product| ≤ den := abs_le.2 ⟨by omega, by omega⟩
    rw [hdistance, hhalf]
    exact div_le_div_of_nonneg_right (by exact_mod_cast hle) (by positivity)
  · rw [hdistance, hhalf, div_left_inj' (by positivity)] at htie
    have htie' : |2 * (num : Int) - 2 * product| = den := by exact_mod_cast htie
    refine (Int.even_coe_nat n).2 (Nat.even_iff.2 (heven ?_))
    rcases (abs_eq (Int.natCast_nonneg den)).1 htie' with h | h <;> omega

namespace Binary64

/-- A number of steps is rounded to a binary number: to the nearest multiple of that power of two
which leaves 53 significant bits, or to the nearest step where there are no more bits than these. -/
def IsRounded (x : ℚ) (steps : Nat) : Prop :=
  ∃ spare significand : Nat, steps = significand * 2 ^ spare ∧
    IsNearest (x / 2 ^ spare) significand ∧
    x < 2 ^ (53 + spare) ∧ (spare = 0 ∨ 2 ^ (52 + spare) ≤ x)

theorem isRounded_roundSteps (num : Nat) {den : Nat} (hden : 0 < den) :
    IsRounded ((num : ℚ) / den) (roundSteps num den) := by
  have hpos : (0 : ℚ) < den := Nat.cast_pos.2 hden
  have hbelow := lt_pow_spareBits (num / den)
  have habove : 0 < spareBits (num / den) → _ := fun h => pow_spareBits_le h
  refine ⟨spareBits (num / den), roundQuotient num (den * 2 ^ spareBits (num / den)),
    roundSteps_eq num den, ?_, ?_, ?_⟩
  · have hquotient : (num : ℚ) / den / 2 ^ spareBits (num / den) =
        num / (den * 2 ^ spareBits (num / den) : Nat) := by
      rw [div_div, Nat.cast_mul, Nat.cast_pow, Nat.cast_ofNat]
    rw [hquotient]
    exact isNearest_roundQuotient num (grid_pos hden _)
  · rw [div_lt_iff₀ hpos]
    exact_mod_cast (Nat.div_lt_iff_lt_mul hden).1 hbelow
  · refine (Nat.eq_zero_or_pos _).imp_right fun hspare => ?_
    rw [le_div_iff₀ hpos]
    exact_mod_cast (Nat.le_div_iff_mul_le hden).1 (habove hspare)

theorem IsRounded.unique {x : ℚ} {steps steps' : Nat} (h : IsRounded x steps)
    (h' : IsRounded x steps') : steps = steps' := by
  obtain ⟨spare, significand, rfl, hnearest, hlt, hle⟩ := h
  obtain ⟨spare', significand', rfl, hnearest', hlt', hle'⟩ := h'
  -- more spare bits mean a larger number
  have hnot : ∀ {k l : Nat}, x < 2 ^ (53 + k) → l = 0 ∨ 2 ^ (52 + l) ≤ x → l ≤ k := by
    intro k l hlt hle
    by_contra hkl
    have hl : (2 : ℚ) ^ (52 + l) ≤ x := hle.resolve_left (by omega)
    have hpow : (2 : ℚ) ^ (53 + k) ≤ 2 ^ (52 + l) :=
      pow_le_pow_right₀ one_le_two (by omega)
    exact absurd (hpow.trans hl) (not_le.2 hlt)
  have hspare : spare = spare' := le_antisymm (hnot hlt' hle) (hnot hlt hle')
  subst hspare
  rw [Int.natCast_inj.1 (hnearest.unique hnearest')]

end Binary64

end PlaybackRules
