import Dashboard.Binary64.Basic

/-!
# Binary64.Order · the two orders of numbers

* **`same_zero`**: a number equals zero exactly if its bits below the sign are zero.
* **`less_iff`**, **`atMost_iff`**, **`same_iff_level_eq`**: the numeric comparisons are those of
  levels.
* The total order by rank is a total preorder on all numbers, not-a-numbers included, in which only
  a number itself is equal to it. It refines the numeric order (**`atMost_of_totalOrder`**).
-/

namespace Dashboard

namespace Binary64

variable {x y : Binary64}

/-- The level is zero for the two zeros only. -/
theorem level_eq_zero_iff : x.level = 0 ↔ x.magnitude = 0 := by
  unfold level
  split <;> omega

/-- The level of a number is its magnitude, with a sign. -/
theorem natAbs_level (x : Binary64) : x.level.natAbs = x.magnitude := by
  unfold level
  split <;> omega

/-- NaN is no zero. -/
theorem magnitude_ne_zero_of_isNaN (h : x.isNaN = true) : x.magnitude ≠ 0 := by
  cases x with
  | nan s payload inRange =>
      have hpos := inRange.1
      simp only [magnitude]
      omega
  | infinite s => cases h
  | finite s m e hc => cases h

/-- Finite numbers are not NaN. -/
theorem isNaN_of_isFinite (h : x.isFinite = true) : x.isNaN = false := by
  cases x with
  | nan | infinite => cases h
  | finite => rfl

/-- The zeros are finite. -/
theorem isFinite_of_isZero (h : x.isZero = true) : x.isFinite = true := by
  cases x with
  | nan => exact absurd (eq_of_beq h) (magnitude_ne_zero_of_isNaN rfl)
  | infinite => cases h
  | finite => rfl

/-- The bits of a finite number stand below those of infinity. -/
theorem magnitude_finite_lt {s : Bool} {m e : Nat} (hc : Canonical m e) :
    (finite s m e hc).magnitude < 2047 * 2 ^ (52 : Nat) := by
  have hbound := hc.2.1
  have hlt := hc.1
  simp only [magnitude]
  omega

/-- A number can be read off its bits. -/
theorem eq_of_magnitude_eq (hsign : x.negative = y.negative) (h : x.magnitude = y.magnitude) :
    x = y := by
  cases x with
  | nan s p hp =>
      cases y with
      | nan s' p' hp' =>
          obtain rfl : s = s' := hsign
          obtain rfl : p = p' := Nat.add_left_cancel h
          rfl
      | infinite s' =>
          simp only [magnitude] at h
          omega
      | finite s' m' e' hc' =>
          have hlt := magnitude_finite_lt (s := s') hc'
          simp only [magnitude] at h hlt
          omega
  | infinite s =>
      cases y with
      | nan s' p' hp' =>
          simp only [magnitude] at h
          omega
      | infinite s' =>
          obtain rfl : s = s' := hsign
          rfl
      | finite s' m' e' hc' => exact absurd h (Nat.ne_of_gt (magnitude_finite_lt hc'))
  | finite s m e hc =>
      have hlt := magnitude_finite_lt (s := s) hc
      cases y with
      | nan s' p' hp' =>
          simp only [magnitude] at h hlt
          omega
      | infinite s' => exact absurd h (Nat.ne_of_lt hlt)
      | finite s' m' e' hc' =>
          have hfields : m = m' ∧ e = e' := by
            simp only [magnitude] at h
            simp only [Canonical] at hc hc'
            omega
          obtain ⟨rfl, rfl⟩ := hfields
          obtain rfl : s = s' := hsign
          rfl

/-! ## Numeric comparison -/

/-- A number other than NaN equals itself. -/
theorem same_self (h : x.isNaN = false) : x.same x = true := by
  simp [same, compare?, h]

/-- Numbers are equal if they stand at one level and none of them is NaN. -/
theorem same_iff_level_eq :
    x.same y = true ↔ (x.isNaN = false ∧ y.isNaN = false) ∧ x.level = y.level := by
  unfold same compare?
  cases x.isNaN <;> cases y.isNaN <;> simp

/-- Equality is symmetric. -/
theorem same_symm (h : x.same y = true) : y.same x = true := by
  obtain ⟨⟨hx, hy⟩, hlevel⟩ := same_iff_level_eq.1 h
  exact same_iff_level_eq.2 ⟨⟨hy, hx⟩, hlevel.symm⟩

/-- Numeric equality with zero is the test for zero, of either sign. -/
theorem same_zero (x : Binary64) : x.same (.zero false) = x.isZero := by
  have hlevel : (zero false).level = 0 := rfl
  unfold same compare? isZero
  cases hnan : x.isNaN with
  | true => simpa using magnitude_ne_zero_of_isNaN hnan
  | false =>
      have hzero : (zero false).isNaN = false := rfl
      rw [hzero, hlevel, Bool.eq_iff_iff]
      simp [level_eq_zero_iff]

/-- Apart from NaN, numbers are compared by their levels. -/
theorem less_iff (hx : x.isNaN = false) (hy : y.isNaN = false) :
    x.less y = true ↔ x.level < y.level := by
  have hcompare : x.compare? y = some (compare x.level y.level) := by simp [compare?, hx, hy]
  simp only [less, hcompare, beq_iff_eq, Option.some.injEq, Int.compare_eq_lt]

/-- Apart from NaN, numbers are at most as large if their levels are. -/
theorem atMost_iff (hx : x.isNaN = false) (hy : y.isNaN = false) :
    x.atMost y = true ↔ x.level ≤ y.level := by
  have hcompare : x.compare? y = some (compare x.level y.level) := by simp [compare?, hx, hy]
  simp only [atMost, less, same, hcompare, Bool.or_eq_true, beq_iff_eq, Option.some.injEq]
  rw [← Std.isLE_compare, Ordering.isLE_iff_eq_lt_or_eq_eq]

/-! ## The total order -/

instance : Std.TransCmp totalOrder where
  eq_swap := Std.OrientedOrd.eq_swap
  isLE_trans := Std.TransOrd.isLE_trans

/-- Negative numbers have negative ranks. -/
theorem negative_iff_rank_neg : x.negative = true ↔ x.rank < 0 := by
  unfold rank
  cases x.negative with
  | true =>
      simp only [if_true, true_iff]
      omega
  | false => simp

/-- Different numbers are never equal in the total order. -/
instance : Std.LawfulEqCmp totalOrder where
  eq_of_compare {x y} h := by
    have hrank : x.rank = y.rank := Std.LawfulEqCmp.eq_of_compare h
    have hsign : x.negative = y.negative := by
      rw [Bool.eq_iff_iff, negative_iff_rank_neg, negative_iff_rank_neg, hrank]
    apply eq_of_magnitude_eq hsign
    rw [rank, rank, hsign] at hrank
    split at hrank <;> omega

/-- The total order keeps different numbers apart. -/
theorem totalOrder_eq_eq : x.totalOrder y = .eq ↔ x = y := Std.LawfulEqCmp.compare_eq_iff_eq

/-- The total order refines the numeric one. -/
theorem atMost_of_totalOrder (hx : x.isNaN = false) (hy : y.isNaN = false)
    (h : (x.totalOrder y).isLE = true) : x.atMost y = true := by
  have hrank : x.rank ≤ y.rank := Std.isLE_compare.1 h
  rw [atMost_iff hx hy]
  cases hxs : x.negative <;> cases hys : y.negative <;>
    simp only [rank, level, hxs, hys, if_true, Bool.false_eq_true, if_false] at hrank ⊢ <;> omega

end Binary64

end Dashboard
