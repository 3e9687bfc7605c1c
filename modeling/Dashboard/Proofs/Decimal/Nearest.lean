import Dashboard.Proofs.Binary64.Nearest
import Dashboard.Proofs.Decimal.ReadBack
import Mathlib.Algebra.Order.Field.Power

/-!
# Decimal.Nearest · reading a decimal is correct rounding

* **`span`** is the exact absolute value of a decimal, in the units of a double.
* **`isNearest_toBinary64`**: a decimal denotes the double nearest to it, also where the value is
  answered without computing the power of ten.
-/

namespace Dashboard

namespace Decimal

open Binary64

/-- The exact absolute value in units. -/
def span (d : Decimal) : ℚ := d.coefficient * (10 : ℚ) ^ d.exponent * unitsPerOne

variable {d : Decimal}

/-- No span is negative. -/
theorem span_nonneg (d : Decimal) : 0 ≤ d.span := by
  unfold span
  positivity

/-! ## Size -/

/-- The first digit of a number is not zero. -/
theorem pow_length_le {n : Nat} (hn : n ≠ 0) : 10 ^ ((digits n).length - 1) ≤ n := by
  rcases Nat.eq_zero_or_pos ((digits n).length - 1) with hzero | hpos
  · rw [hzero]
    exact Nat.one_le_iff_ne_zero.2 hn
  · exact Nat.not_lt.1 fun hlt => by
      have hle := (length_digits_le_iff hpos).2 hlt
      omega

/-- A number is smaller than the power of ten with one more digit. -/
theorem lt_pow_length (n : Nat) : n < 10 ^ (digits n).length :=
  (length_digits_le_iff (List.length_pos_iff.2 Nat.toDigits_ne_nil)).1 le_rfl

/-- Powers of ten grow with their exponents. -/
theorem ten_zpow_le {i j : ℤ} (h : i ≤ j) : (10 : ℚ) ^ i ≤ 10 ^ j :=
  zpow_le_zpow_right₀ (by norm_num) h

/-- A decimal of size over 310 lies above all doubles. -/
theorem limit_le_span (hne : d.coefficient ≠ 0)
    (hsize : 310 < (digits d.coefficient).length + d.exponent) : (limit : ℚ) ≤ d.span := by
  -- the exponent gets a name, so that no step computes the power
  obtain ⟨k, hk⟩ : ∃ k : Nat, k = 310 := ⟨_, rfl⟩
  have hlimit : limit ≤ 10 ^ k * unitsPerOne := by
    rw [hk]
    decide +kernel
  have hlength : 0 < (digits d.coefficient).length := List.length_pos_iff.2 Nat.toDigits_ne_nil
  have hcoefficient :
      (10 : ℚ) ^ (((digits d.coefficient).length - 1 : Nat) : ℤ) ≤ d.coefficient := by
    rw [zpow_natCast]
    exact_mod_cast pow_length_le hne
  have hpower : (10 : ℚ) ^ (k : ℤ) ≤ d.coefficient * 10 ^ d.exponent :=
    calc (10 : ℚ) ^ (k : ℤ)
        ≤ 10 ^ ((((digits d.coefficient).length - 1 : Nat) : ℤ) + d.exponent) :=
          ten_zpow_le (by omega)
      _ = 10 ^ (((digits d.coefficient).length - 1 : Nat) : ℤ) * 10 ^ d.exponent :=
          zpow_add₀ (by norm_num) _ _
      _ ≤ d.coefficient * 10 ^ d.exponent := by gcongr
  rw [zpow_natCast] at hpower
  calc (limit : ℚ) ≤ 10 ^ k * unitsPerOne := by exact_mod_cast hlimit
    _ ≤ d.span := mul_le_mul_of_nonneg_right hpower (Nat.cast_nonneg _)

/-- A decimal of size under -330 is less than half a unit. -/
theorem span_le_half (hsize : (digits d.coefficient).length + d.exponent < -330) :
    d.span ≤ 1 / 2 := by
  obtain ⟨k, hk⟩ : ∃ k : Nat, k = 330 := ⟨_, rfl⟩
  have hunits : unitsPerOne * 2 ≤ 10 ^ k := by
    rw [hk]
    decide +kernel
  have hcoefficient : (d.coefficient : ℚ) ≤ 10 ^ ((digits d.coefficient).length : ℤ) := by
    rw [zpow_natCast]
    exact_mod_cast (lt_pow_length d.coefficient).le
  have hpower : d.coefficient * (10 : ℚ) ^ d.exponent ≤ 10 ^ (-(k : ℤ)) :=
    calc d.coefficient * (10 : ℚ) ^ d.exponent
        ≤ 10 ^ ((digits d.coefficient).length : ℤ) * 10 ^ d.exponent := by gcongr
      _ = 10 ^ (((digits d.coefficient).length : ℤ) + d.exponent) :=
          (zpow_add₀ (by norm_num) _ _).symm
      _ ≤ 10 ^ (-(k : ℤ)) := ten_zpow_le (by omega)
  rw [zpow_neg, zpow_natCast] at hpower
  have hten : (0 : ℚ) < 10 ^ k := pow_pos (by norm_num) k
  calc d.span ≤ ((10 : ℚ) ^ k)⁻¹ * unitsPerOne :=
        mul_le_mul_of_nonneg_right hpower (Nat.cast_nonneg _)
    _ ≤ 1 / 2 := by
        rw [inv_mul_le_iff₀ hten, mul_one_div, le_div_iff₀ (by norm_num)]
        exact_mod_cast hunits

/-- **A decimal denotes the double nearest to it.** -/
theorem isNearest_toBinary64 (d : Decimal) : IsNearest d.negative d.span d.toBinary64 := by
  unfold toBinary64
  dsimp only
  split_ifs with hzero hlarge hsmall
  · have hspan : d.span = 0 := by rw [span, hzero, Nat.cast_zero, zero_mul, zero_mul]
    rw [hspan]
    exact isNearest_zero d.negative le_rfl (by norm_num)
  · exact isNearest_infinite d.negative (limit_le_span hzero hlarge)
  · exact isNearest_zero d.negative (span_nonneg d) (span_le_half hsmall)
  · split
    · rename_i e he
      have hspan : d.span = (d.coefficient * 10 ^ e * unitsPerOne : Nat) / (1 : Nat) := by
        rw [span, he, Int.ofNat_eq_natCast, zpow_natCast, Nat.cast_one, div_one, Nat.cast_mul,
          Nat.cast_mul, Nat.cast_pow, Nat.cast_ofNat]
      rw [hspan]
      exact isNearest_ofUnits d.negative _ Nat.one_pos
    · rename_i e he
      have hspan : d.span = (d.coefficient * unitsPerOne : Nat) / (10 ^ (e + 1) : Nat) := by
        rw [span, he, zpow_negSucc, Nat.cast_mul, Nat.cast_pow, Nat.cast_ofNat, div_eq_mul_inv]
        ring
      rw [hspan]
      exact isNearest_ofUnits d.negative _ (Nat.pow_pos (by decide))

end Decimal

end Dashboard
