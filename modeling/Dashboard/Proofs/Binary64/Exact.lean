import Dashboard.Binary64.Rounding
import Mathlib.Algebra.Order.Ring.Nat
import Mathlib.Tactic.Ring

/-!
# Binary64.Exact · numbers that need no rounding

* **`ofUnits_mul`**: rounding depends on the quotient alone, not on how it is written.
* **`ofUnits_units`**: the number nearest to the units of a finite number is that number, whatever
  multiple of them the fraction is written with.
* **`ofUnits_not`**: rounding does not look at the sign.
-/

namespace Dashboard

namespace Binary64

/-! ## Quotients -/

/-- A rounded quotient does not depend on a common factor. -/
theorem roundQuotient_mul {n d k : Nat} (hk : 0 < k) :
    roundQuotient (n * k) (d * k) = roundQuotient n d := by
  have hdiv : n * k / (d * k) = n / d := Nat.mul_div_mul_right n d hk
  have hmod : n * k % (d * k) = n % d * k := Nat.mul_mod_mul_right k n d
  have hlow : 2 * (n % d * k) < d * k ↔ 2 * (n % d) < d := by
    rw [← Nat.mul_assoc]
    exact Nat.mul_lt_mul_right hk
  have hhigh : d * k < 2 * (n % d * k) ↔ d < 2 * (n % d) := by
    rw [← Nat.mul_assoc]
    exact Nat.mul_lt_mul_right hk
  simp only [roundQuotient, hdiv, hmod, hlow, hhigh]

/-- A whole quotient is not rounded. -/
theorem roundQuotient_mul_self {n d : Nat} (hd : 0 < d) : roundQuotient (n * d) d = n := by
  have hmod : n * d % d = 0 := Nat.mul_mod_left n d
  have hdiv : n * d / d = n := Nat.mul_div_cancel n hd
  simp [roundQuotient, hmod, hdiv, hd]

/-- A fraction of units may be extended. -/
theorem ofUnits_mul {s : Bool} {n d k : Nat} (hk : 0 < k) :
    ofUnits s (n * k) (d * k) = ofUnits s n d := by
  have hdiv : n * k / (d * k) = n / d := Nat.mul_div_mul_right n d hk
  have hround : ∀ scale, roundQuotient (n * k) (d * k * 2 ^ scale) =
      roundQuotient n (d * 2 ^ scale) := by
    intro scale
    rw [show d * k * 2 ^ scale = d * 2 ^ scale * k by ring]
    exact roundQuotient_mul hk
  simp only [ofUnits, hdiv, hround]

/-! ## Finite numbers -/

/-- A canonical pair is packed as it is. -/
theorem pack_canonical {s : Bool} {m e : Nat} (h : Canonical m e) :
    pack s m e = .finite s m e h := by
  rw [pack, dif_pos h]

/-- Shifting to the left adds to the logarithm. -/
theorem log2_mul_two_pow {m : Nat} (hm : m ≠ 0) (e : Nat) : (m * 2 ^ e).log2 = m.log2 + e := by
  induction e with
  | zero => rw [Nat.pow_zero, Nat.mul_one, Nat.add_zero]
  | succ e ih =>
      have hne : m * 2 ^ e ≠ 0 := Nat.mul_ne_zero hm (Nat.two_pow_pos e).ne'
      rw [show m * 2 ^ (e + 1) = 2 * (m * 2 ^ e) by ring, Nat.log2_two_mul hne, ih,
        Nat.add_assoc]

/-- The scale that rounding chooses for a canonical pair is its own. -/
theorem scale_of_canonical {m e : Nat} (h : Canonical m e) : (m * 2 ^ e).log2 - 52 = e := by
  obtain ⟨hlt, -, he | hle⟩ := h
  · subst he
    have hlog : m.log2 ≤ 52 := by
      by_cases hm : m = 0
      · subst hm
        decide
      · have := (Nat.log2_lt hm).2 hlt
        omega
    rw [Nat.pow_zero, Nat.mul_one]
    omega
  · have hm : m ≠ 0 := by
      rintro rfl
      omega
    have hlog : m.log2 = 52 := (Nat.log2_eq_iff hm).2 ⟨hle, hlt⟩
    rw [log2_mul_two_pow hm, hlog]
    omega

/-- A finite number other than zero has units. -/
theorem units_pos {x : Binary64} (hfin : x.isFinite = true) (hne : x.isZero = false) :
    0 < x.units := by
  cases x with
  | nan s p h => cases hfin
  | infinite s => cases hfin
  | finite s m e h =>
      have hm : 0 < m := by
        by_contra hm
        obtain rfl : m = 0 := by omega
        obtain rfl : e = 0 := by
          rcases h.2.2 with he | hle
          · exact he
          · omega
        cases hne
      exact Nat.mul_pos hm (Nat.two_pow_pos e)

/-- A finite number without magnitude is one of the zeros. -/
theorem eq_zero_of_isZero {x : Binary64} (hfin : x.isFinite = true)
    (hzero : x.isZero = true) : x = .zero x.negative := by
  cases x with
  | nan => cases hfin
  | infinite => cases hfin
  | finite s m e h =>
      have hmagnitude : e * 2 ^ (52 : Nat) + m = 0 := eq_of_beq hzero
      obtain rfl : m = 0 := by omega
      obtain rfl : e = 0 := by omega
      rfl

/-- A finite number is the one nearest to its units. -/
theorem ofUnits_units {x : Binary64} (hfin : x.isFinite = true) {k : Nat} (hk : 0 < k) :
    ofUnits x.negative (x.units * k) k = x := by
  cases x with
  | nan s p h => cases hfin
  | infinite s => cases hfin
  | finite s m e h =>
      have hone : ofUnits s (m * 2 ^ e * k) (1 * k) = ofUnits s (m * 2 ^ e) 1 := ofUnits_mul hk
      rw [Nat.one_mul] at hone
      simp only [negative, units]
      rw [hone]
      simp only [ofUnits, Nat.div_one, scale_of_canonical h, Nat.one_mul,
        roundQuotient_mul_self (Nat.two_pow_pos e)]
      exact pack_canonical h

/-- The units of a number are bounded by the greatest significand and scale. -/
theorem units_lt (x : Binary64) {n : Nat} (hn : 2045 ≤ n) : x.units < 2 ^ (53 + n) := by
  cases x with
  | nan s p h => exact Nat.two_pow_pos _
  | infinite s => exact Nat.two_pow_pos _
  | finite s m e h =>
      calc m * 2 ^ e < 2 ^ 53 * 2 ^ e := Nat.mul_lt_mul_of_pos_right h.1 (Nat.two_pow_pos e)
        _ ≤ 2 ^ 53 * 2 ^ n :=
          Nat.mul_le_mul_left _ (Nat.pow_le_pow_right (by decide) (le_trans h.2.1 hn))
        _ = 2 ^ (53 + n) := (Nat.pow_add 2 53 n).symm

/-! ## Whole numbers -/

/-- There are units in the number one. -/
theorem unitsPerOne_pos : 0 < unitsPerOne := by
  decide +kernel

/-- Whole numbers are finite. -/
theorem isFinite_of_isIntegral {x : Binary64} (h : x.isIntegral = true) : x.isFinite = true := by
  rw [isIntegral, Bool.and_eq_true] at h
  exact h.1

/-- A whole number is its whole part in units. -/
theorem units_of_isIntegral {x : Binary64} (h : x.isIntegral = true) :
    x.units = x.wholePart * unitsPerOne := by
  rw [isIntegral, Bool.and_eq_true, beq_iff_eq] at h
  exact (Nat.div_mul_cancel (Nat.dvd_of_mod_eq_zero h.2)).symm

/-! ## Signs -/

/-- The sign goes through packing. -/
theorem pack_not {s : Bool} {m e : Nat} : pack (!s) m e = -pack s m e := by
  unfold pack
  split
  · rfl
  · split <;> rfl

/-- The sign goes through rounding. -/
theorem ofUnits_not {s : Bool} {n d : Nat} : ofUnits (!s) n d = -ofUnits s n d := pack_not

/-- A rounded number has the sign that it was given. -/
theorem negative_ofUnits (s : Bool) (n d : Nat) : (ofUnits s n d).negative = s := by
  unfold ofUnits pack
  dsimp only
  split_ifs <;> rfl

end Binary64

end Dashboard
