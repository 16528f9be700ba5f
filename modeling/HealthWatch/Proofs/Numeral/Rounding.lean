import HealthWatch.Numeral.Binary64
import Mathlib.Algebra.Group.Nat.Defs

/-!
# Large integers as floating point numbers

An integer from `2 ^ 63` to `2 ^ 64` is rounded to a multiple of 2048 when it is taken as a floating
point number (`toNatClamped_ofNat`).
-/

namespace HealthWatch.Numeral

theorem divNearest_mul_right (num den : Nat) {factor : Nat} (positive : 0 < factor) :
    divNearest (num * factor) (den * factor) = divNearest num den := by
  have less : 2 * (num % den * factor) < den * factor ↔ 2 * (num % den) < den := by
    rw [← Nat.mul_assoc, Nat.mul_lt_mul_right positive]
  have greater : den * factor < 2 * (num % den * factor) ↔ den < 2 * (num % den) := by
    rw [← Nat.mul_assoc, Nat.mul_lt_mul_right positive]
  simp only [divNearest, Nat.mul_div_mul_right _ _ positive, Nat.mul_mod_mul_right, less, greater]

theorem le_divNearest (num den : Nat) : num / den ≤ divNearest num den := by
  simp only [divNearest]
  repeat' split
  all_goals omega

theorem divNearest_le (num den : Nat) : divNearest num den ≤ num / den + 1 := by
  simp only [divNearest]
  repeat' split
  all_goals omega

theorem divNearest_of_dvd {num den : Nat} (whole : den ∣ num) (positive : 0 < den) :
    divNearest num den = num / den := by
  simp only [divNearest, Nat.mod_eq_zero_of_dvd whole]
  exact if_pos positive

namespace Binary64

variable {n : Nat}

/-- An integer of 64 binary digits has eleven below the significant ones. -/
theorem slack_shifted (low : 2 ^ 63 ≤ n) (high : n < 2 ^ 64) (k : Nat) :
    slack (n * 2 ^ k) = 11 + k := by
  have positive : n * 2 ^ k ≠ 0 := Nat.mul_ne_zero (by omega) (Nat.ne_of_gt (Nat.two_pow_pos k))
  have log : (n * 2 ^ k).log2 = 63 + k := by
    rw [Nat.log2_eq_iff positive]
    constructor
    · rw [Nat.pow_add]
      exact Nat.mul_le_mul_right _ low
    · rw [show 63 + k + 1 = 64 + k by omega, Nat.pow_add]
      exact Nat.mul_lt_mul_of_pos_right high (Nat.two_pow_pos k)
  rw [slack, log]
  omega

theorem one_ceiling : ∃ k m, one = Nat.pow 2 k ∧ ceiling = Nat.pow 2 m ∧ 64 + k < m := by
  -- The exponents stay hidden from here on: the powers are too large to compute with.
  unfold one ceiling
  exact ⟨1074, 2098, rfl, rfl, by decide⟩

theorem one_pos : 0 < one := by
  obtain ⟨k, -, units, -⟩ := one_ceiling
  rw [units]
  exact Nat.two_pow_pos k

theorem ofNat_eq (low : 2 ^ 63 ≤ n) (high : n < 2 ^ 64) :
    ofNat false n = .finite false (divNearest n 2048 * 2048 * one) := by
  obtain ⟨k, m, units, top, room⟩ := one_ceiling
  have shift : slack (n * one) = 11 + k := by
    rw [units]
    exact slack_shifted low high k
  have unit : Nat.pow 2 (11 + k) = 2048 * one := by
    rw [units]
    exact Nat.pow_add 2 11 k
  have rounded : divNearest n 2048 * 2048 ≤ 2 ^ 64 := by
    have near := divNearest_le n 2048
    omega
  have small : divNearest n 2048 * 2048 * one < ceiling := calc
    divNearest n 2048 * 2048 * one ≤ 2 ^ 64 * one := Nat.mul_le_mul_right one rounded
    _ = 2 ^ (64 + k) := by rw [units]; exact (Nat.pow_add 2 64 k).symm
    _ < ceiling := by rw [top]; exact Nat.pow_lt_pow_right (by decide) room
  rw [ofNat, ofRatio, Nat.div_one, shift, unit, Nat.one_mul, divNearest_mul_right n 2048 one_pos,
    ← Nat.mul_assoc, ofUnits, if_pos small]

/-- A large integer comes back as the nearest multiple of 2048, cut to the greatest integer. -/
theorem toNatClamped_ofNat (low : 2 ^ 63 ≤ n) (high : n < 2 ^ 64) (greatest : Nat) :
    (ofNat false n).toNatClamped greatest = min (divNearest n 2048 * 2048) greatest := by
  have whole : ∀ m, (2 * (m * one) + one) / (2 * one) = m := by
    intro m
    have odd : 2 * (m * one) + one = (2 * m + 1) * one := by
      rw [Nat.add_mul, Nat.mul_assoc, Nat.one_mul]
    rw [odd, Nat.mul_div_mul_right _ _ one_pos]
    omega
  rw [ofNat_eq low high, toNatClamped, if_neg (by decide), whole]

end Binary64

end HealthWatch.Numeral
