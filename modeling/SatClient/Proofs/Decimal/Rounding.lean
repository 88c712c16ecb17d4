import Mathlib.Algebra.Order.Field.Power
import Mathlib.Algebra.Order.Ring.Rat
import Mathlib.Tactic.FieldSimp
import Mathlib.Tactic.GCongr
import Mathlib.Tactic.Linarith
import Mathlib.Tactic.NormNum
import Mathlib.Tactic.Positivity
import Mathlib.Tactic.Ring
import SatClient.Decimal.Binary64
/-!
The sign of a rounded number. A ratio up to half of the least positive number is rounded to zero;
everything above stays positive, however far it overflows. The short cuts for decimal numbers far
outside the range change nothing about it.
-/

namespace SatClient.Decimal

section

variable {base num den : Nat} {exponent : Int}

theorem scale_snd_pos (basis : 0 < base) (whole : 0 < den) :
    0 < (scale base num den exponent).2 := by
  unfold scale
  split
  · exact whole
  · exact Nat.mul_pos whole (Nat.pow_pos basis)

theorem scale_div (basis : 0 < base) :
    ((scale base num den exponent).1 : ℚ) / (scale base num den exponent).2 =
      num / den * (base : ℚ) ^ exponent := by
  have nonzero : (base : ℚ) ≠ 0 := by exact_mod_cast basis.ne'
  have power (n : Nat) : base.pow n = base ^ n := rfl
  by_cases high : 0 ≤ exponent
  · obtain ⟨n, rfl⟩ := Int.eq_ofNat_of_zero_le high
    rw [scale, if_pos high, power, Int.toNat_natCast, zpow_natCast, Nat.cast_mul, Nat.cast_pow,
      mul_div_right_comm]
  · obtain ⟨n, rfl⟩ : ∃ n : Nat, exponent = -(n : Int) := ⟨(-exponent).toNat, by omega⟩
    rw [scale, if_neg high, power, neg_neg, Int.toNat_natCast, zpow_neg, zpow_natCast, Nat.cast_mul,
      Nat.cast_pow, div_mul_eq_div_div, div_eq_mul_inv _ ((base : ℚ) ^ n)]

theorem roundDiv_eq_zero_iff (whole : 0 < den) : roundDiv num den = 0 ↔ 2 * num ≤ den := by
  rcases Nat.lt_or_ge num den with small | large
  · simp only [roundDiv, Nat.div_eq_of_lt small, Nat.mod_eq_of_lt small]
    split
    · omega
    · split <;> simp <;> omega
  · have floor : 0 < num / den := Nat.div_pos large whole
    simp only [roundDiv]
    repeat' split
    all_goals omega

theorem roundDiv_ne_zero_iff (whole : 0 < den) :
    roundDiv num den ≠ 0 ↔ 1 / 2 < (num : ℚ) / den := by
  have bottom : (0 : ℚ) < den := by exact_mod_cast whole
  rw [ne_eq, roundDiv_eq_zero_iff whole, not_le, div_lt_div_iff₀ two_pos bottom, one_mul,
    mul_comm (num : ℚ)]
  exact_mod_cast Iff.rfl

end

namespace Binary64

section

variable {num den : Nat}

theorem two_zpow_le_div (nonzero : 0 < num) (whole : 0 < den) :
    (2 : ℚ) ^ ((num.log2 : Int) - den.log2 - 1) ≤ num / den := by
  have bottom : (0 : ℚ) < den := by exact_mod_cast whole
  have below : (2 : ℚ) ^ num.log2 ≤ num := by exact_mod_cast Nat.log2_self_le nonzero.ne'
  have above : (den : ℚ) ≤ 2 ^ (den.log2 + 1) := by exact_mod_cast Nat.lt_log2_self.le
  calc (2 : ℚ) ^ ((num.log2 : Int) - den.log2 - 1)
      = 2 ^ num.log2 / 2 ^ (den.log2 + 1) := by
        rw [sub_sub, ← Nat.cast_succ, zpow_sub₀ two_ne_zero, zpow_natCast, zpow_natCast]
    _ ≤ num / den := by gcongr

theorem exponentFor_le (above : leastExponent < exponentFor num den) :
    exponentFor num den ≤ (num.log2 : Int) - den.log2 - 52 := by
  unfold exponentFor at above ⊢
  dsimp only at above ⊢
  split at above <;> omega

/-- Unless the multiples of the least positive number are the candidates, a ratio is at least as
large as the power of two whose multiples are. -/
theorem exponentFor_cases (nonzero : 0 < num) (whole : 0 < den) :
    exponentFor num den = leastExponent ∨
      leastExponent < exponentFor num den ∧ (2 : ℚ) ^ exponentFor num den ≤ num / den := by
  rcases lt_or_ge leastExponent (exponentFor num den) with above | below
  · refine Or.inr ⟨above, ?_⟩
    have estimate := exponentFor_le above
    calc (2 : ℚ) ^ exponentFor num den ≤ 2 ^ ((num.log2 : Int) - den.log2 - 1) :=
          zpow_le_zpow_right₀ one_le_two (by omega)
      _ ≤ num / den := two_zpow_le_div nonzero whole
  · exact Or.inl (le_antisymm below (le_max_left _ _))

/-- Half of the least positive number, `2 ^ -1075`. -/
def halfLeast : ℚ := 2 ^ (leastExponent - 1)

theorem halfLeast_nonneg : 0 ≤ halfLeast :=
  zpow_nonneg two_pos.le _

theorem isPositive_pack (significand : Nat) (exponent : Int) :
    (pack false significand exponent).isPositive = true ↔
      greatestExponent < exponent ∨ significand ≠ 0 := by
  unfold pack
  split
  · next large => simp [isPositive, large]
  · next finite => simp [isPositive, finite]

def rounded (negative : Bool) (exponent : Int) (scaled : Nat × Nat) : Binary64 :=
  if roundDiv scaled.1 scaled.2 = 2 * fullSignificand then
    pack negative fullSignificand (exponent + 1)
  else pack negative (roundDiv scaled.1 scaled.2) exponent

theorem ofRatio_eq_rounded (negative : Bool) (nonzero : 0 < num) :
    ofRatio negative num den =
      rounded negative (exponentFor num den) (scale 2 num den (-exponentFor num den)) := by
  unfold ofRatio
  rw [if_neg nonzero.ne']
  -- the exponent is hidden, since a comparison of both sides would compute it
  generalize exponentFor num den = chosen
  extract_lets exponent
  change _ = rounded negative exponent (scale 2 num den (-exponent))
  generalize scale 2 num den (-exponent) = scaled
  obtain ⟨n, d⟩ := scaled
  rfl

theorem isPositive_rounded (exponent : Int) (scaled : Nat × Nat) :
    (rounded false exponent scaled).isPositive = true ↔
      greatestExponent < exponent ∨ roundDiv scaled.1 scaled.2 ≠ 0 := by
  unfold rounded
  split
  · next carry =>
      have full : fullSignificand ≠ 0 := by decide
      have twice : 2 * fullSignificand ≠ 0 := by decide
      rw [isPositive_pack, carry]
      exact iff_of_true (Or.inr full) (Or.inr twice)
  · exact isPositive_pack _ _

theorem isPositive_ofRatio_minus (num den : Nat) : (ofRatio true num den).isPositive = false := by
  have packed (significand : Nat) (exponent : Int) :
      (pack true significand exponent).isPositive = false := by
    unfold pack
    split <;> rfl
  rcases Nat.eq_zero_or_pos num with rfl | nonzero
  · rfl
  · rw [ofRatio_eq_rounded true nonzero, rounded]
    split <;> exact packed _ _

/-- A ratio stays positive exactly if it is more than half of the least positive number. -/
theorem isPositive_ofRatio (whole : 0 < den) :
    (ofRatio false num den).isPositive = true ↔ halfLeast < num / den := by
  rcases Nat.eq_zero_or_pos num with rfl | nonzero
  · simp [ofRatio, isPositive, halfLeast_nonneg]
  have halved (e : Int) : 1 / 2 < (num : ℚ) / den * 2 ^ (-e) ↔ (2 : ℚ) ^ (e - 1) < num / den := by
    rw [zpow_sub_one₀ two_ne_zero, zpow_neg, ← div_eq_mul_inv, lt_div_iff₀ (zpow_pos two_pos e),
      one_div, mul_comm]
  rw [ofRatio_eq_rounded false nonzero, isPositive_rounded,
    roundDiv_ne_zero_iff (scale_snd_pos two_pos whole), scale_div two_pos, Nat.cast_ofNat, halved]
  rcases exponentFor_cases nonzero whole with least | ⟨above, large⟩
  · have small : ¬ greatestExponent < exponentFor num den := by
      rw [least]
      decide
    rw [least] at small ⊢
    exact or_iff_right small
  · -- a larger exponent than the least one is that of a ratio far above the half
    have half : (2 : ℚ) ^ (exponentFor num den - 1) < num / den :=
      (zpow_lt_zpow_right₀ one_lt_two (sub_one_lt _)).trans_le large
    have least : halfLeast < num / den :=
      (zpow_lt_zpow_right₀ one_lt_two (sub_lt_sub_right above 1)).trans half
    exact iff_of_true (Or.inr half) least

end

section

variable {digits length : Nat} {exponent : Int}

def HasDigits (digits length : Nat) : Prop :=
  digits < 10 ^ length ∧ (digits ≠ 0 → 10 ^ length ≤ 10 * digits)

theorem halfLeast_lt_of_large (nonzero : digits ≠ 0) (long : HasDigits digits length)
    (large : 310 < length + exponent) : halfLeast < digits * 10 ^ exponent := by
  have least : (10 : ℚ) ^ (length : Int) ≤ 10 * digits := by
    rw [zpow_natCast]
    exact_mod_cast long.2 nonzero
  have one : (1 : ℚ) ≤ digits * 10 ^ exponent := by
    have scaled : (10 : ℚ) * 1 ≤ 10 * (digits * 10 ^ exponent) := by
      calc (10 : ℚ) * 1 = 10 ^ (1 : Int) := by norm_num
        _ ≤ 10 ^ ((length : Int) + exponent) := zpow_le_zpow_right₀ (by norm_num) (by omega)
        _ = 10 ^ (length : Int) * 10 ^ exponent := zpow_add₀ (by norm_num) _ _
        _ ≤ 10 * digits * 10 ^ exponent := by gcongr
        _ = 10 * (digits * 10 ^ exponent) := mul_assoc _ _ _
    exact le_of_mul_le_mul_left scaled (by norm_num)
  have half : halfLeast < 1 := zpow_lt_one_of_neg₀ one_lt_two (by decide)
  exact half.trans_le one

theorem lt_halfLeast_of_small (long : HasDigits digits length)
    (small : length + exponent < -330) : digits * 10 ^ exponent < halfLeast := by
  have most : (digits : ℚ) < 10 ^ (length : Int) := by
    rw [zpow_natCast]
    exact_mod_cast long.1
  have far : (10 : ℚ) ^ (-325 : Int) ≤ halfLeast := by
    have power : (2 ^ 43 : ℚ) ^ 25 ≤ (10 ^ 13) ^ 25 := by
      gcongr
      norm_num
    rw [← pow_mul, ← pow_mul] at power
    calc (10 : ℚ) ^ (-325 : Int) = (10 ^ 325)⁻¹ := zpow_neg _ _
      _ ≤ (2 ^ 1075)⁻¹ := inv_anti₀ (pow_pos two_pos _) power
      _ = halfLeast := (zpow_neg (2 : ℚ) 1075).symm
  calc (digits : ℚ) * 10 ^ exponent < 10 ^ (length : Int) * 10 ^ exponent := by gcongr
    _ = 10 ^ ((length : Int) + exponent) := (zpow_add₀ (by norm_num) _ _).symm
    _ ≤ 10 ^ (-325 : Int) := zpow_le_zpow_right₀ (by norm_num) (by omega)
    _ ≤ halfLeast := far

theorem isPositive_ofDecimal_minus (digits length : Nat) (exponent : Int) :
    (ofDecimal true digits length exponent).isPositive = false := by
  unfold ofDecimal
  split
  · rfl
  · split
    · rfl
    · split
      · rfl
      · exact isPositive_ofRatio_minus _ _

theorem isPositive_ofDecimal (long : HasDigits digits length) :
    (ofDecimal false digits length exponent).isPositive = true ↔
      halfLeast < digits * 10 ^ exponent := by
  unfold ofDecimal
  split
  · next zero => simp [isPositive, zero, halfLeast_nonneg]
  · next nonzero =>
      split
      · next large => exact iff_of_true rfl (halfLeast_lt_of_large nonzero long large)
      · split
        · next small => exact iff_of_false nofun (lt_halfLeast_of_small long small).not_gt
        · rw [isPositive_ofRatio (scale_snd_pos (by decide) one_pos), scale_div (by decide)]
          simp

end

end Binary64

end SatClient.Decimal
