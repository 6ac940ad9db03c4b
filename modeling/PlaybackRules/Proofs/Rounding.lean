import Mathlib.Tactic.Linarith
import Mathlib.Tactic.Ring
import PlaybackRules.Number.Place

/-!
# Rounding

Rounding to the nearest natural, a tie to the even one, is told by the naturals at or above the
result (`roundQuotient_le_iff`): they are those whose upper half way the quotient does not pass.  So
it respects the order of quotients (`roundQuotient_mono`) and moves a quotient by at most one half.
Rounding to 53 significant bits respects the order too (`Binary64.roundSteps_mono`): quotients with
as many spare bits are rounded on one grid, and between two with different spare bits there is a
power of two that neither passes.
-/

namespace PlaybackRules

variable {num den num' den' : Nat}

/-! ## To the nearest natural -/

/-- The rounded quotient is at most `n` if the quotient does not pass the half way above `n`, nor
reach it when `n` is odd. -/
theorem roundQuotient_le_iff (hden : 0 < den) {n : Nat} :
    roundQuotient num den ≤ n ↔
      2 * num < (2 * n + 1) * den ∨ 2 * num = (2 * n + 1) * den ∧ n % 2 = 0 := by
  have hnum : num / den * den + num % den = num := Nat.div_add_mod' num den
  have hrest : num % den < den := Nat.mod_lt num hden
  have hround : roundQuotient num den =
      if 2 * (num % den) < den ∨ 2 * (num % den) = den ∧ num / den % 2 = 0 then num / den
      else num / den + 1 := by
    simp [roundQuotient]
  rw [hround]
  generalize num / den = quotient, num % den = rest at hnum hrest
  rw [← hnum]
  rcases Nat.lt_trichotomy quotient n with hlt | rfl | hlt
  · -- the quotient lies below `n`, and with it the half way above the quotient
    have hle : (2 * quotient + 2) * den ≤ 2 * n * den := Nat.mul_le_mul_right den (by omega)
    refine iff_of_true (by split <;> omega) (.inl ?_)
    linarith
  · have htwice : (2 * quotient + 1) * den = 2 * (quotient * den) + den := by ring
    rw [htwice]
    split <;> omega
  · have hle : (2 * n + 2) * den ≤ 2 * quotient * den := Nat.mul_le_mul_right den (by omega)
    refine iff_of_false (by split <;> omega) ?_
    rintro (habove | ⟨htie, -⟩)
    · linarith
    · linarith

theorem roundQuotient_mono (hden : 0 < den) (hden' : 0 < den') (h : num * den' ≤ num' * den) :
    roundQuotient num den ≤ roundQuotient num' den' := by
  rw [roundQuotient_le_iff hden]
  have hround := (roundQuotient_le_iff hden').1 (le_refl (roundQuotient num' den'))
  generalize roundQuotient num' den' = n at hround
  -- with the denominators crossed, the two quotients compare with the same half way
  have hcross : 2 * num * den' ≤ 2 * num' * den := by linarith
  rcases hround with hlt | ⟨htie, heven⟩
  · have hlt' : 2 * num * den' < (2 * n + 1) * den * den' :=
      calc 2 * num * den' ≤ 2 * num' * den := hcross
        _ < (2 * n + 1) * den' * den := Nat.mul_lt_mul_of_pos_right hlt hden
        _ = (2 * n + 1) * den * den' := by ring
    exact .inl (Nat.lt_of_mul_lt_mul_right hlt')
  · have hle : 2 * num * den' ≤ (2 * n + 1) * den * den' :=
      calc 2 * num * den' ≤ 2 * num' * den := hcross
        _ = (2 * n + 1) * den * den' := by rw [htie]; ring
    rcases (Nat.le_of_mul_le_mul_right hle hden').lt_or_eq with hlt | heq
    · exact .inl hlt
    · exact .inr ⟨heq, heven⟩

theorem roundQuotient_le (hden : 0 < den) {n : Nat} (h : num ≤ n * den) :
    roundQuotient num den ≤ n := by
  refine (roundQuotient_le_iff hden).2 (.inl ?_)
  linarith

theorem le_roundQuotient (hden : 0 < den) {n : Nat} (h : n * den ≤ num) :
    n ≤ roundQuotient num den := by
  cases n with
  | zero => exact Nat.zero_le _
  | succ n =>
      refine Nat.lt_of_not_le fun hle => ?_
      have hnum : 2 * ((n + 1) * den) = (2 * n + 1) * den + den := by ring
      rcases (roundQuotient_le_iff hden).1 hle with hlt | ⟨htie, -⟩
      · omega
      · omega

/-- Rounding moves a quotient by at most one half. -/
theorem roundQuotient_near (num : Nat) (hden : 0 < den) :
    2 * (roundQuotient num den * den) ≤ 2 * num + den ∧
      2 * num ≤ 2 * (roundQuotient num den * den) + den := by
  have hupper := (roundQuotient_le_iff hden).1 (le_refl (roundQuotient num den))
  have hlower : ∀ n, n < roundQuotient num den →
      ¬(2 * num < (2 * n + 1) * den ∨ 2 * num = (2 * n + 1) * den ∧ n % 2 = 0) :=
    fun n hlt h => absurd ((roundQuotient_le_iff hden).2 h) (Nat.not_le.2 hlt)
  generalize roundQuotient num den = n at hupper hlower
  have htwice : (2 * n + 1) * den = 2 * (n * den) + den := by ring
  constructor
  · cases n with
    | zero => omega
    | succ n =>
        have hn := hlower n (Nat.lt_succ_self n)
        have hnum : 2 * ((n + 1) * den) = (2 * n + 1) * den + den := by ring
        omega
  · omega

/-- A quotient that is half way between two naturals is rounded to the even one. -/
theorem roundQuotient_even (hden : 0 < den)
    (htie : 2 * num = 2 * (roundQuotient num den * den) + den ∨
      2 * num + den = 2 * (roundQuotient num den * den)) :
    roundQuotient num den % 2 = 0 := by
  have hiff : ∀ n, roundQuotient num den ≤ n ↔
      2 * num < (2 * n + 1) * den ∨ 2 * num = (2 * n + 1) * den ∧ n % 2 = 0 :=
    fun n => roundQuotient_le_iff hden
  generalize roundQuotient num den = n at htie hiff ⊢
  rcases htie with habove | hbelow
  · have hhalf : (2 * n + 1) * den = 2 * (n * den) + den := by ring
    have hn := (hiff n).1 le_rfl
    omega
  · cases n with
    | zero => omega
    | succ n =>
        have hhalf : 2 * ((n + 1) * den) = (2 * n + 1) * den + den := by ring
        have hn := mt (hiff n).2 (Nat.not_succ_le_self n)
        omega

/-! ## To 53 significant bits -/

namespace Binary64

theorem spareBits_mono {m n : Nat} (h : m ≤ n) : spareBits m ≤ spareBits n := by
  have hlog : m.log2 ≤ n.log2 := by
    rcases Nat.eq_zero_or_pos m with rfl | hpos
    · exact Nat.zero_le _
    · exact (Nat.le_log2 (by omega)).2 ((Nat.log2_self_le hpos.ne').trans h)
  unfold spareBits
  omega

theorem lt_pow_spareBits (n : Nat) : n < 2 ^ (53 + spareBits n) :=
  Nat.lt_log2_self.trans_le (Nat.pow_le_pow_right two_pos (by unfold spareBits; omega))

theorem spareBits_le {n k : Nat} (h : n < 2 ^ (53 + k)) : spareBits n ≤ k := by
  have hlog : n.log2 < 53 + k := by
    rcases Nat.eq_zero_or_pos n with rfl | hpos
    · rw [Nat.log2_zero]
      omega
    · exact (Nat.log2_lt hpos.ne').2 h
  unfold spareBits
  omega

theorem pow_spareBits_le {n : Nat} (h : 0 < spareBits n) : 2 ^ (52 + spareBits n) ≤ n := by
  have hlog : 52 + spareBits n = n.log2 := by
    unfold spareBits at h ⊢
    omega
  have hn : n ≠ 0 := by
    rintro rfl
    exact absurd h (by decide)
  rw [hlog]
  exact Nat.log2_self_le hn

theorem roundSteps_eq (num den : Nat) :
    roundSteps num den =
      roundQuotient num (den * 2 ^ spareBits (num / den)) * 2 ^ spareBits (num / den) := rfl

theorem one_eq : one = 2 ^ 1074 := by
  unfold one
  generalize 1074 = n
  rfl

theorem limit_eq : limit = 2 ^ 2098 := by
  unfold limit
  generalize 2098 = n
  rfl

theorem pow_lt_one {k : Nat} (h : k < 1074) : 2 ^ k < one := by
  have hlt : ∀ n, k < n → 2 ^ k < Nat.pow 2 n := fun n => Nat.pow_lt_pow_right Nat.one_lt_two
  unfold one
  generalize 1074 = n at h ⊢
  exact hlt n h

theorem grid_pos (hden : 0 < den) (spare : Nat) : 0 < den * 2 ^ spare :=
  Nat.mul_pos hden (Nat.two_pow_pos spare)

theorem roundSteps_zero {den : Nat} (hden : 0 < den) : roundSteps 0 den = 0 := by
  have hround : roundQuotient 0 (den * 2 ^ spareBits (0 / den)) ≤ 0 :=
    roundQuotient_le (grid_pos hden _) (Nat.zero_le _)
  rw [roundSteps_eq, Nat.le_zero.1 hround, Nat.zero_mul]

/-- Rounding does not pass the power of two above. -/
theorem roundSteps_le_pow (hden : 0 < den) :
    roundSteps num den ≤ 2 ^ (53 + spareBits (num / den)) := by
  have hlt := lt_pow_spareBits (num / den)
  generalize hspare : spareBits (num / den) = spare at hlt
  have hnum : num ≤ 2 ^ 53 * (den * 2 ^ spare) := by
    have hlt' : num < 2 ^ (53 + spare) * den := (Nat.div_lt_iff_lt_mul hden).1 hlt
    have heq : 2 ^ 53 * (den * 2 ^ spare) = 2 ^ (53 + spare) * den := by rw [pow_add]; ring
    omega
  rw [roundSteps_eq, hspare, pow_add]
  exact Nat.mul_le_mul_right _ (roundQuotient_le (grid_pos hden spare) hnum)

/-- Nor does it pass the power of two below, where bits are spared. -/
theorem pow_le_roundSteps (hden : 0 < den) (h : 0 < spareBits (num / den)) :
    2 ^ (52 + spareBits (num / den)) ≤ roundSteps num den := by
  have hle := pow_spareBits_le h
  generalize hspare : spareBits (num / den) = spare at hle
  have hnum : 2 ^ 52 * (den * 2 ^ spare) ≤ num := by
    have hle' : 2 ^ (52 + spare) * den ≤ num := (Nat.le_div_iff_mul_le hden).1 hle
    have heq : 2 ^ 52 * (den * 2 ^ spare) = 2 ^ (52 + spare) * den := by rw [pow_add]; ring
    omega
  rw [roundSteps_eq, hspare, pow_add]
  exact Nat.mul_le_mul_right _ (le_roundQuotient (grid_pos hden spare) hnum)

theorem roundSteps_mono (hden : 0 < den) (hden' : 0 < den') (h : num * den' ≤ num' * den) :
    roundSteps num den ≤ roundSteps num' den' := by
  have hdiv : num / den ≤ num' / den' := by
    refine (Nat.le_div_iff_mul_le hden').2 (Nat.le_of_mul_le_mul_right ?_ hden)
    calc num / den * den' * den = num / den * den * den' := by ring
      _ ≤ num * den' := Nat.mul_le_mul_right den' (Nat.div_mul_le_self num den)
      _ ≤ num' * den := h
  rcases (spareBits_mono hdiv).lt_or_eq with hlt | heq
  · calc roundSteps num den ≤ 2 ^ (53 + spareBits (num / den)) := roundSteps_le_pow hden
      _ ≤ 2 ^ (52 + spareBits (num' / den')) := Nat.pow_le_pow_right two_pos (by omega)
      _ ≤ roundSteps num' den' := pow_le_roundSteps hden' (Nat.zero_lt_of_lt hlt)
  · rw [roundSteps_eq, roundSteps_eq, ← heq]
    generalize spareBits (num / den) = spare
    refine Nat.mul_le_mul_right _ (roundQuotient_mono (grid_pos hden _) (grid_pos hden' _) ?_)
    calc num * (den' * 2 ^ spare) = num * den' * 2 ^ spare := by ring
      _ ≤ num' * den * 2 ^ spare := Nat.mul_le_mul_right _ h
      _ = num' * (den * 2 ^ spare) := by ring

/-- A quotient whose spare bits are zeros is not moved. -/
theorem roundSteps_mul (hden : 0 < den) {n : Nat} (h : 2 ^ spareBits n ∣ n) :
    roundSteps (n * den) den = n := by
  obtain ⟨significand, hn⟩ := h
  have hdiv : n * den / den = n := Nat.mul_div_cancel n hden
  have hgrid : n * den = significand * (den * 2 ^ spareBits n) := by
    conv_lhs => rw [hn]
    ring
  have hround : roundQuotient (n * den) (den * 2 ^ spareBits n) = significand :=
    Nat.le_antisymm (roundQuotient_le (grid_pos hden _) hgrid.le)
      (le_roundQuotient (grid_pos hden _) hgrid.ge)
  rw [roundSteps_eq, hdiv, hround, Nat.mul_comm, ← hn]

/-- A power of two is reached from the last half way below it on. -/
theorem roundSteps_lt_pow_iff (hden : 0 < den) (k : Nat) :
    roundSteps num den < 2 ^ (54 + k) ↔ num < (2 ^ 54 - 1) * 2 ^ k * den := by
  rcases Nat.lt_trichotomy (spareBits (num / den)) (k + 1) with hlt | heq | hgt
  · have hround : roundSteps num den < 2 ^ (54 + k) :=
      (roundSteps_le_pow hden).trans_lt (Nat.pow_lt_pow_right Nat.one_lt_two (by omega))
    have hdiv : num / den < 2 ^ (53 + k) :=
      (lt_pow_spareBits _).trans_le (Nat.pow_le_pow_right two_pos (by omega))
    have hnum : num < 2 ^ 53 * (2 ^ k * den) := by
      rw [← Nat.mul_assoc, ← pow_add]
      exact (Nat.div_lt_iff_lt_mul hden).1 hdiv
    refine iff_of_true hround ?_
    rw [Nat.mul_assoc]
    omega
  · -- the grid on which the quotient is rounded ends just below the power of two
    rw [roundSteps_eq, heq]
    have hpow : 2 ^ (54 + k) = 2 ^ 53 * 2 ^ (k + 1) := by rw [← pow_add]; congr 1; omega
    have hgrid : den * 2 ^ (k + 1) = 2 * (2 ^ k * den) := by ring
    rw [hpow, Nat.mul_lt_mul_right (Nat.two_pow_pos _), Nat.lt_iff_le_pred (by decide),
      roundQuotient_le_iff (grid_pos hden _), hgrid, Nat.mul_assoc (2 ^ 54 - 1)]
    omega
  · have hround : 2 ^ (54 + k) ≤ roundSteps num den :=
      (Nat.pow_le_pow_right two_pos (by omega)).trans (pow_le_roundSteps hden (by omega))
    have hdiv : 2 ^ (54 + k) ≤ num / den :=
      (Nat.pow_le_pow_right two_pos (by omega)).trans (pow_spareBits_le (by omega))
    have hnum : 2 ^ 54 * (2 ^ k * den) ≤ num := by
      rw [← Nat.mul_assoc, ← pow_add]
      exact (Nat.le_div_iff_mul_le hden).1 hdiv
    have hpos : 0 < 2 ^ k * den := Nat.mul_pos (Nat.two_pow_pos k) hden
    refine iff_of_false hround.not_gt ?_
    rw [Nat.mul_assoc]
    omega

/-- Rounding moves a quotient by at most half of what its last significant bit stands for. -/
theorem roundSteps_near (num : Nat) (hden : 0 < den) :
    2 * (roundSteps num den * den) ≤ 2 * num + den * 2 ^ spareBits (num / den) ∧
      2 * num ≤ 2 * (roundSteps num den * den) + den * 2 ^ spareBits (num / den) := by
  have hnear := roundQuotient_near num (grid_pos hden (spareBits (num / den)))
  have hgrid : roundSteps num den * den =
      roundQuotient num (den * 2 ^ spareBits (num / den)) *
        (den * 2 ^ spareBits (num / den)) := by
    rw [roundSteps_eq]
    ring
  rwa [hgrid]

end Binary64

end PlaybackRules
