import Dashboard.Binary64.Arithmetic
import Dashboard.Proofs.Binary64.Exact
import Dashboard.Proofs.Binary64.Order
import Mathlib.Algebra.BigOperators.Ring.Finset
import Mathlib.Algebra.Order.BigOperators.Group.List
import Mathlib.Algebra.Order.Ring.Int
import Mathlib.Data.List.Induction

/-!
# Binary64.WholeSum · sums of whole numbers

Up to `2 ^ 53` every whole number is a double, so adding whole numbers rounds nothing as long as
all partial sums stay below that. What is left of the order of the summands is the sign of a zero: a
sum is `-0` exactly if all summands are.

* **`ofMagnitudeNat_of_le`**: a natural number of at most `2 ^ 53` is kept.
* **`SumsExactly`**: the summands are whole numbers whose absolute values add up to at most
  `2 ^ 53`. **`SumsExactly.truncate_sum`** is the exact sum.
* **`SumsExactly.sum_perm`**, **`SumsExactly.sum_map_sum`**: such summands may be put in another
  order, and parts of them may be summed first.
-/

namespace Dashboard

namespace Binary64

variable {x y : Binary64} {xs ys : List Binary64} {parts : List (List Binary64)} {s : Bool}
  {n : Nat}

/-! ## Whole numbers -/

/-- The truncated value is the whole part with its sign. -/
theorem truncate_eq_signedUnits : x.truncate = signedUnits x.negative x.wholePart := rfl

/-- A factor goes through the sign. -/
theorem signedUnits_mul (k : Nat) : signedUnits s (n * k) = signedUnits s n * k := by
  unfold signedUnits
  split <;> simp

/-- The sign does not change the absolute value. -/
theorem natAbs_signedUnits : (signedUnits s n).natAbs = n := by
  unfold signedUnits
  split <;> simp

/-- A whole number is known by its value and its sign. -/
theorem eq_of_truncate_eq (hx : x.isIntegral = true) (hy : y.isIntegral = true)
    (hvalue : x.truncate = y.truncate) (hsign : x.negative = y.negative) : x = y := by
  have hwhole : x.wholePart = y.wholePart := by
    rw [truncate_eq_signedUnits, truncate_eq_signedUnits] at hvalue
    rw [← @natAbs_signedUnits x.negative x.wholePart, hvalue, natAbs_signedUnits]
  rw [← ofUnits_units (isFinite_of_isIntegral hx) Nat.one_pos, units_of_isIntegral hx, hwhole,
    hsign, ← units_of_isIntegral hy, ofUnits_units (isFinite_of_isIntegral hy) Nat.one_pos]

/-- The sign of a whole number other than zero is that of its value. -/
theorem negative_of_truncate_ne_zero (h : x.truncate ≠ 0) :
    x.negative = decide (x.truncate < 0) := by
  rw [truncate_eq_signedUnits] at h ⊢
  unfold signedUnits at h ⊢
  cases x.negative with
  | true =>
      simp only [if_true] at h ⊢
      exact (decide_eq_true (by omega)).symm
  | false =>
      simp only [Bool.false_eq_true, if_false] at h ⊢
      exact (decide_eq_false (by omega)).symm

/-- The zeros are whole. -/
theorem isIntegral_zero (s : Bool) : (zero s).isIntegral = true := by
  cases s <;> decide +kernel

/-- The value of both zeros is zero. -/
theorem truncate_zero (s : Bool) : (zero s).truncate = 0 := by
  cases s <;> decide +kernel

/-- Negative numbers have no positive values. -/
theorem truncate_nonpos_of_negative (h : x.negative = true) : x.truncate ≤ 0 := by
  rw [truncate_eq_signedUnits, signedUnits, if_pos h]
  omega

/-- A whole number with the value zero is a zero. -/
theorem eq_zero_of_truncate_eq_zero (hx : x.isIntegral = true) (hvalue : x.truncate = 0) :
    x = zero x.negative := by
  apply eq_of_truncate_eq hx (isIntegral_zero _)
  · rw [hvalue, truncate_zero]
  · rfl

/-- A value other than zero belongs to one whole number. -/
theorem eq_of_truncate_eq_of_ne_zero (hx : x.isIntegral = true) (hy : y.isIntegral = true)
    (hvalue : x.truncate = y.truncate) (hne : x.truncate ≠ 0) : x = y := by
  apply eq_of_truncate_eq hx hy hvalue
  rw [negative_of_truncate_ne_zero hne, negative_of_truncate_ne_zero (hvalue ▸ hne), hvalue]

/-- Whole numbers of one value are the same unless one of them is the negative zero. -/
theorem eq_of_truncate_eq_of_zero (hx : x.isIntegral = true) (hy : y.isIntegral = true)
    (hvalue : x.truncate = y.truncate) (hzero : x = zero true ↔ y = zero true) : x = y := by
  by_cases hne : x.truncate = 0
  · rw [eq_zero_of_truncate_eq_zero hx hne, eq_zero_of_truncate_eq_zero hy (hvalue ▸ hne)]
      at hzero ⊢
    revert hzero
    cases x.negative <;> cases y.negative <;> decide
  · exact eq_of_truncate_eq_of_ne_zero hx hy hvalue hne

/-- Whole numbers of one value are equal as numbers. -/
theorem same_of_truncate_eq (hx : x.isIntegral = true) (hy : y.isIntegral = true)
    (hvalue : x.truncate = y.truncate) : x.same y = true := by
  by_cases hzero : x.truncate = 0
  · rw [eq_zero_of_truncate_eq_zero hx hzero, eq_zero_of_truncate_eq_zero hy (hvalue ▸ hzero)]
    cases x.negative <;> cases y.negative <;> decide
  · obtain rfl := eq_of_truncate_eq_of_ne_zero hx hy hvalue hzero
    exact same_self (isNaN_of_isFinite (isFinite_of_isIntegral hx))

/-! ## Natural numbers that are kept -/

/-- A natural number of at most `2 ^ 53` is a canonical significand with a scale. -/
theorem exists_canonical (hn : n ≤ 2 ^ (53 : Nat)) :
    ∃ m e, Canonical m e ∧ m * 2 ^ e = n * unitsPerOne := by
  by_cases hzero : n = 0
  · subst hzero
    exact ⟨0, 0, by decide, by simp⟩
  by_cases hlimit : n = 2 ^ (53 : Nat)
  · subst hlimit
    exact ⟨2 ^ (52 : Nat), 1075, by decide, by decide +kernel⟩
  · have hlt : n < 2 ^ (53 : Nat) := lt_of_le_of_ne hn hlimit
    have hlog : n.log2 ≤ 52 := by
      have := (Nat.log2_lt hzero).2 hlt
      omega
    have hlow : 2 ^ n.log2 ≤ n := Nat.log2_self_le hzero
    have hhigh : n < 2 ^ (n.log2 + 1) := Nat.lt_log2_self
    refine ⟨n * 2 ^ (52 - n.log2), 1022 + n.log2, ⟨?_, by omega, .inr ?_⟩, ?_⟩
    · calc n * 2 ^ (52 - n.log2) < 2 ^ (n.log2 + 1) * 2 ^ (52 - n.log2) :=
            Nat.mul_lt_mul_of_pos_right hhigh (Nat.two_pow_pos _)
        _ = 2 ^ (53 : Nat) := by rw [← Nat.pow_add]; congr 1; omega
    · calc 2 ^ (52 : Nat) = 2 ^ n.log2 * 2 ^ (52 - n.log2) := by
            rw [← Nat.pow_add, Nat.add_sub_cancel' hlog]
        _ ≤ n * 2 ^ (52 - n.log2) := Nat.mul_le_mul_right _ hlow
    · rw [Nat.mul_assoc, ← Nat.pow_add, unitsPerOne]
      congr 2
      omega

/-- Natural numbers up to `2 ^ 53` are exact, with either sign. -/
theorem ofMagnitudeNat_of_le (s : Bool) (hn : n ≤ 2 ^ (53 : Nat)) :
    (ofMagnitudeNat s n).isIntegral = true ∧ (ofMagnitudeNat s n).truncate = signedUnits s n := by
  obtain ⟨m, e, hcanonical, hunits⟩ := exists_canonical hn
  have hexact : ofMagnitudeNat s n = .finite s m e hcanonical := by
    rw [ofMagnitudeNat, ← hunits, ← Nat.mul_one (m * 2 ^ e)]
    exact @ofUnits_units (.finite s m e hcanonical) rfl 1 Nat.one_pos
  rw [hexact, truncate_eq_signedUnits, wholePart, isIntegral, units, hunits]
  constructor
  · simp [isFinite]
  · rw [Nat.mul_div_cancel _ unitsPerOne_pos]
    rfl

/-- **Whole numbers of at most `2 ^ 53` are kept.** -/
theorem ofInt_of_natAbs_le {i : Int} (h : i.natAbs ≤ 2 ^ (53 : Nat)) :
    (ofInt i).isIntegral = true ∧ (ofInt i).truncate = i := by
  obtain ⟨hwhole, hvalue⟩ := ofMagnitudeNat_of_le (decide (i < 0)) h
  refine ⟨hwhole, hvalue.trans ?_⟩
  unfold signedUnits
  by_cases hneg : i < 0
  · simp only [hneg, decide_true, if_true]
    omega
  · simp only [hneg, decide_false, Bool.false_eq_true, if_false]
    omega

/-- Natural numbers up to `2 ^ 53` are exact. -/
theorem ofNat_of_le (hn : n ≤ 2 ^ (53 : Nat)) :
    (ofNat n).isIntegral = true ∧ (ofNat n).truncate = n :=
  ofMagnitudeNat_of_le false hn

/-! ## Adding whole numbers -/

/-- A sum is that of the units with their signs, rounded once. -/
theorem add_of_isFinite (hx : x.isFinite = true) (hy : y.isFinite = true) :
    x.add y =
      if signedUnits x.negative x.units + signedUnits y.negative y.units = 0 then
        zero (x.negative && y.negative)
      else ofUnits (decide (signedUnits x.negative x.units + signedUnits y.negative y.units < 0))
        (signedUnits x.negative x.units + signedUnits y.negative y.units).natAbs 1 := by
  cases x with
  | nan => cases hx
  | infinite => cases hx
  | finite =>
      cases y with
      | nan => cases hy
      | infinite => cases hy
      | finite => rfl

/-- The sum of whole numbers is rounded from their exact sum. -/
theorem add_of_isIntegral (hx : x.isIntegral = true) (hy : y.isIntegral = true) :
    x.add y = if x.truncate + y.truncate = 0 then zero (x.negative && y.negative)
      else ofInt (x.truncate + y.truncate) := by
  have htotal : signedUnits x.negative x.units + signedUnits y.negative y.units =
      (x.truncate + y.truncate) * unitsPerOne := by
    rw [units_of_isIntegral hx, units_of_isIntegral hy, signedUnits_mul, signedUnits_mul,
      ← truncate_eq_signedUnits, ← truncate_eq_signedUnits, Int.add_mul]
  have hone : 0 < (unitsPerOne : Int) := Int.natCast_pos.2 unitsPerOne_pos
  rw [add_of_isFinite (isFinite_of_isIntegral hx) (isFinite_of_isIntegral hy), htotal]
  by_cases hzero : x.truncate + y.truncate = 0
  · rw [if_pos hzero, if_pos (by rw [hzero, Int.zero_mul])]
  · have hne : (x.truncate + y.truncate) * (unitsPerOne : Int) ≠ 0 :=
      Int.mul_ne_zero hzero hone.ne'
    have hneg : (x.truncate + y.truncate) * (unitsPerOne : Int) < 0 ↔
        x.truncate + y.truncate < 0 :=
      ⟨fun h => neg_of_mul_neg_left h hone.le, fun h => Int.mul_neg_of_neg_of_pos h hone⟩
    rw [if_neg hzero, if_neg hne, Int.natAbs_mul, Int.natAbs_natCast, ofInt, ofMagnitudeNat]
    simp only [hneg]

/-- While the sum stays in range it is exact, and it is `-0` only if both summands are. -/
theorem add_exact (hx : x.isIntegral = true) (hy : y.isIntegral = true)
    (hle : (x.truncate + y.truncate).natAbs ≤ 2 ^ (53 : Nat)) :
    (x.add y).isIntegral = true ∧ (x.add y).truncate = x.truncate + y.truncate ∧
      (x.add y = zero true ↔ x = zero true ∧ y = zero true) := by
  rw [add_of_isIntegral hx hy]
  by_cases hsum : x.truncate + y.truncate = 0
  · rw [if_pos hsum, hsum]
    refine ⟨isIntegral_zero _, truncate_zero _, ?_⟩
    constructor
    · intro hzero
      have hboth : (x.negative && y.negative) = true := congrArg negative hzero
      obtain ⟨hxneg, hyneg⟩ := (Bool.and_eq_true _ _).mp hboth
      -- neither value is positive, and together they are zero
      have hxvalue := truncate_nonpos_of_negative hxneg
      have hyvalue := truncate_nonpos_of_negative hyneg
      constructor
      · rw [eq_zero_of_truncate_eq_zero hx (by omega), hxneg]
      · rw [eq_zero_of_truncate_eq_zero hy (by omega), hyneg]
    · rintro ⟨rfl, rfl⟩
      rfl
  · obtain ⟨hwhole, hexact⟩ := ofInt_of_natAbs_le hle
    rw [if_neg hsum]
    refine ⟨hwhole, hexact, ?_⟩
    constructor
    · intro hzero
      rw [hzero, truncate_zero] at hexact
      exact absurd hexact.symm hsum
    · rintro ⟨rfl, rfl⟩
      exact absurd (by rw [truncate_zero]; rfl) hsum

/-! ## Sums of many -/

/-- The summands are whole numbers whose absolute values add up to at most `2 ^ 53`. -/
structure SumsExactly (xs : List Binary64) : Prop where
  whole : ∀ x ∈ xs, x.isIntegral = true
  bounded : (xs.map fun x => x.truncate.natAbs).sum ≤ 2 ^ (53 : Nat)

/-- Signs can only make a sum smaller. -/
theorem natAbs_sum_truncate_le (xs : List Binary64) :
    (xs.map truncate).sum.natAbs ≤ (xs.map fun x => x.truncate.natAbs).sum := by
  induction xs with
  | nil => simp
  | cons x xs ih =>
      simp only [List.map_cons, List.sum_cons]
      omega

/-- A last number is added to the sum of those before it. -/
theorem sum_concat (xs : List Binary64) (x : Binary64) : sum (xs ++ [x]) = (sum xs).add x := by
  rw [sum, List.foldl_append]
  rfl

namespace SumsExactly

/-- Fewer numbers sum exactly as well. -/
theorem of_sublist (h : SumsExactly ys) (hsub : xs.Sublist ys) : SumsExactly xs where
  whole x hx := h.whole x (hsub.subset hx)
  bounded := le_trans ((hsub.map _).sum_le_sum fun _ _ => Nat.zero_le _) h.bounded

/-- Numbers in another order sum exactly as well. -/
theorem perm (h : SumsExactly xs) (hperm : xs.Perm ys) : SumsExactly ys where
  whole y hy := h.whole y (hperm.mem_iff.2 hy)
  bounded := (hperm.map fun x => x.truncate.natAbs).sum_eq ▸ h.bounded

/-- What a sum of such numbers is. -/
theorem sum_exact (h : SumsExactly xs) :
    (sum xs).isIntegral = true ∧ (sum xs).truncate = (xs.map truncate).sum ∧
      (sum xs = zero true ↔ ∀ x ∈ xs, x = zero true) := by
  induction xs using List.reverseRecOn with
  | nil => exact ⟨by decide +kernel, by decide +kernel, by simp [sum]⟩
  | append_singleton xs x ih =>
      obtain ⟨hwhole, hvalue, hzero⟩ := ih (h.of_sublist (List.sublist_append_left xs [x]))
      have hle : ((sum xs).truncate + x.truncate).natAbs ≤ 2 ^ (53 : Nat) := by
        have htotal := le_trans (natAbs_sum_truncate_le (xs ++ [x])) h.bounded
        rwa [List.map_append, List.sum_append, List.map_singleton, List.sum_singleton,
          ← hvalue] at htotal
      obtain ⟨hwhole', hvalue', hzero'⟩ := add_exact hwhole (h.whole x (by simp)) hle
      rw [sum_concat]
      refine ⟨hwhole', ?_, ?_⟩
      · rw [hvalue', hvalue, List.map_append, List.sum_append, List.map_singleton,
          List.sum_singleton]
      · rw [hzero', hzero, List.forall_mem_append, List.forall_mem_singleton]

/-- An exact sum is whole. -/
theorem isIntegral_sum (h : SumsExactly xs) : (sum xs).isIntegral = true := h.sum_exact.1

/-- An exact sum has the sum of the values. -/
theorem truncate_sum (h : SumsExactly xs) : (sum xs).truncate = (xs.map truncate).sum :=
  h.sum_exact.2.1

/-- The order of the summands does not matter. -/
theorem sum_perm (h : SumsExactly xs) (hperm : xs.Perm ys) : sum xs = sum ys := by
  have hys := h.perm hperm
  apply eq_of_truncate_eq_of_zero h.isIntegral_sum hys.isIntegral_sum
  · rw [h.truncate_sum, hys.truncate_sum, (hperm.map _).sum_eq]
  · rw [h.sum_exact.2.2, hys.sum_exact.2.2]
    simp only [hperm.mem_iff]

/-- Each part of numbers that sum exactly does so. -/
theorem of_mem_flatten (h : SumsExactly parts.flatten) (hmem : xs ∈ parts) : SumsExactly xs :=
  h.of_sublist (List.sublist_flatten_of_mem hmem)

/-- The sums of parts sum exactly if their summands do. -/
theorem map_sum (h : SumsExactly parts.flatten) : SumsExactly (parts.map sum) where
  whole := List.forall_mem_map.2 fun _ hmem => (h.of_mem_flatten hmem).isIntegral_sum
  bounded := by
    apply le_trans _ h.bounded
    rw [List.map_map, List.map_flatten, List.sum_flatten, List.map_map]
    apply List.sum_le_sum
    intro part hmem
    simp only [Function.comp_apply, (h.of_mem_flatten hmem).truncate_sum]
    exact natAbs_sum_truncate_le part

/-- **Parts may be summed first.** -/
theorem sum_map_sum (h : SumsExactly parts.flatten) : sum (parts.map sum) = sum parts.flatten := by
  apply eq_of_truncate_eq_of_zero h.map_sum.isIntegral_sum h.isIntegral_sum
  · rw [h.map_sum.truncate_sum, h.truncate_sum, List.map_map, List.map_flatten, List.sum_flatten,
      List.map_map]
    congr 1
    apply List.map_congr_left
    intro part hmem
    exact (h.of_mem_flatten hmem).truncate_sum
  · rw [h.map_sum.sum_exact.2.2, h.sum_exact.2.2, List.forall_mem_map, List.forall_mem_flatten]
    apply forall₂_congr
    intro part hmem
    exact (h.of_mem_flatten hmem).sum_exact.2.2

/-! ### Sums of counts -/

section counts

variable {counts : List Nat}

/-- Counts are exact if their sum is small enough. -/
theorem ofNat_of_mem (h : counts.sum ≤ 2 ^ (53 : Nat)) (hn : n ∈ counts) :
    (ofNat n).isIntegral = true ∧ (ofNat n).truncate = n :=
  ofNat_of_le (le_trans (List.le_sum_of_mem hn) h)

/-- Counts sum exactly if their sum is small enough. -/
theorem of_counts (h : counts.sum ≤ 2 ^ (53 : Nat)) : SumsExactly (counts.map ofNat) where
  whole := List.forall_mem_map.2 fun _ hn => (ofNat_of_mem h hn).1
  bounded := by
    have hvalues : (counts.map ofNat).map (fun x => x.truncate.natAbs) = counts := by
      rw [List.map_map]
      refine (List.map_congr_left fun n hn => ?_).trans (List.map_id counts)
      rw [Function.comp_apply, (ofNat_of_mem h hn).2, Int.natAbs_natCast, id_eq]
    rwa [hvalues]

/-- Counts add up to their sum. -/
theorem truncate_sum_counts (h : counts.sum ≤ 2 ^ (53 : Nat)) :
    (sum (counts.map ofNat)).truncate = counts.sum := by
  rw [(of_counts h).truncate_sum, Nat.cast_list_sum, List.map_map]
  congr 1
  apply List.map_congr_left
  intro n hn
  rw [Function.comp_apply, (ofNat_of_mem h hn).2]

end counts

end SumsExactly

end Binary64

end Dashboard
