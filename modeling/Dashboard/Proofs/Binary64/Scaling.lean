import Dashboard.Proofs.Binary64.Nearest
import Dashboard.Proofs.Binary64.WholeSum
import Mathlib.Data.Nat.Factorization.Basic

/-!
# Binary64.Scaling · numbers that are multiplied and divided back

A number is rounded to decimals by multiplying it with a power of ten, rounding the product and
dividing again. Both the product and the quotient are rounded to a double. The quotient is the
number that was multiplied exactly if the product was off by less than half of what the next number
would add to it.

* **`gap`** is the distance from a number to the next greater one.
* **`two_pow_dvd_units_ofUnits`**: rounding keeps multiples of powers of two. So the product of a
  whole number is whole, and its error is never exactly one half.
* **`ScalesBack n x`**: the product of `x` with `n` is off by less than half the `n`-fold gap.
* **`mul_div_eq_iff`**: exactly then the quotient is `x`.
-/

namespace Dashboard

namespace Binary64

variable {x y : Binary64} {s : Bool} {n q d e k : Nat}

/-! ## Rounding whole numbers of units -/

/-- What lies on the grid of its scale is not rounded. -/
theorem span_ofUnits_of_dvd (he : (n / 1).log2 - 52 = e) (hle : e ≤ 2045) (h : 2 ^ e ∣ n) :
    (ofUnits s n 1).span = n := by
  obtain ⟨m, rfl⟩ := dvd_iff_exists_eq_mul_left.1 h
  rw [(span_ofUnits s _ Nat.one_pos he hle).2.1, Nat.one_mul,
    roundQuotient_mul_self (Nat.two_pow_pos e)]

/-- Numbers of at most 53 bits, followed by zeros, are kept. -/
theorem units_ofUnits_of_dvd (hfin : (ofUnits s n 1).isFinite = true) (h : 2 ^ k ∣ n)
    (hlt : n < 2 ^ (53 : Nat) * 2 ^ k) : (ofUnits s n 1).units = n := by
  have hscale : (n / 1).log2 - 52 ≤ k := by
    rw [Nat.div_one]
    by_cases hzero : n = 0
    · subst hzero
      exact Nat.zero_le k
    · have hlog : n.log2 < 53 + k := (Nat.log2_lt hzero).2 (by rwa [Nat.pow_add])
      omega
  have hle : (n / 1).log2 - 52 ≤ 2045 := by
    by_contra hgt
    rw [ofUnits_of_scale_gt s n (Nat.not_le.1 hgt)] at hfin
    cases hfin
  rw [← span_of_isFinite hfin]
  exact span_ofUnits_of_dvd rfl hle ((Nat.pow_dvd_pow 2 hscale).trans h)

/-- Rounding keeps multiples of powers of two: either the grid of the scale is coarser, or the
number is not rounded at all. -/
theorem two_pow_dvd_units_ofUnits (h : 2 ^ k ∣ n) : 2 ^ k ∣ (ofUnits s n 1).units := by
  generalize he : (n / 1).log2 - 52 = e
  cases hfin : (ofUnits s n 1).isFinite with
  | false =>
      have hzero : (ofUnits s n 1).units = 0 := by
        revert hfin
        cases ofUnits s n 1 with
        | nan | infinite => exact fun _ => rfl
        | finite => exact nofun
      rw [hzero]
      exact Nat.dvd_zero _
  | true =>
      have hle : e ≤ 2045 := by
        by_contra hgt
        rw [ofUnits_of_scale_gt s n (he ▸ Nat.not_le.1 hgt)] at hfin
        cases hfin
      rw [← span_of_isFinite hfin]
      rcases Nat.le_total k e with hke | hek
      · rw [(span_ofUnits s n Nat.one_pos he hle).2.1]
        exact Nat.dvd_mul_left_of_dvd (Nat.pow_dvd_pow 2 hke) _
      · rw [span_ofUnits_of_dvd he hle ((Nat.pow_dvd_pow 2 hek).trans h)]
        exact h

/-! ## Products and quotients with whole numbers -/

/-- A product is that of the units, rounded once. -/
theorem mul_of_isFinite (hx : x.isFinite = true) (hy : y.isFinite = true) :
    x.mul y = ofUnits (x.negative != y.negative) (x.units * y.units) unitsPerOne := by
  cases x with
  | nan | infinite => cases hx
  | finite =>
      cases y with
      | nan | infinite => cases hy
      | finite => rfl

/-- A quotient is that of the units, rounded once. -/
theorem div_of_isFinite (hx : x.isFinite = true) (hy : y.isFinite = true) (hpos : 0 < y.units) :
    x.div y = ofUnits (x.negative != y.negative) (x.units * unitsPerOne) y.units := by
  cases x with
  | nan | infinite => cases hx
  | finite s m e hc =>
      cases y with
      | nan | infinite => cases hy
      | finite t n f hc' =>
          have hn : n ≠ 0 := by
            rintro rfl
            simp [units] at hpos
          exact if_neg hn

/-- A natural number that is kept has its units. -/
theorem units_ofMagnitudeNat (s : Bool) (hn : n ≤ 2 ^ (53 : Nat)) :
    (ofMagnitudeNat s n).isFinite = true ∧ (ofMagnitudeNat s n).units = n * unitsPerOne := by
  obtain ⟨hwhole, hvalue⟩ := ofMagnitudeNat_of_le s hn
  have hpart : (ofMagnitudeNat s n).wholePart = n := by
    have habs := congrArg Int.natAbs hvalue
    rwa [truncate_eq_signedUnits, natAbs_signedUnits, natAbs_signedUnits] at habs
  exact ⟨isFinite_of_isIntegral hwhole, by rw [units_of_isIntegral hwhole, hpart]⟩

/-- A product with a whole number is rounded from the product of the units. -/
theorem mul_ofNat (hx : x.isFinite = true) (hn : n ≤ 2 ^ (53 : Nat)) :
    x * ofNat n = ofUnits x.negative (x.units * n) 1 := by
  obtain ⟨hfin, hunits⟩ := units_ofMagnitudeNat false hn
  have hone := @ofUnits_mul x.negative (x.units * n) 1 unitsPerOne unitsPerOne_pos
  rw [Nat.one_mul, Nat.mul_assoc] at hone
  refine (mul_of_isFinite hx hfin).trans ?_
  rw [hunits, ofMagnitudeNat, negative_ofUnits, Bool.bne_false, hone]

/-- A quotient by a whole number is rounded from the quotient of the units. -/
theorem div_ofNat (hx : x.isFinite = true) (hpos : 0 < n) (hn : n ≤ 2 ^ (53 : Nat)) :
    x / ofNat n = ofUnits x.negative x.units n := by
  obtain ⟨hfin, hunits⟩ := units_ofMagnitudeNat false hn
  refine (div_of_isFinite hx hfin (hunits ▸ Nat.mul_pos hpos unitsPerOne_pos)).trans ?_
  rw [hunits, ofMagnitudeNat, negative_ofUnits, Bool.bne_false, ofUnits_mul unitsPerOne_pos]

/-- A product that is out of range is infinite. -/
theorem eq_infinite_of_mul_ofNat (hx : x.isFinite = true) (hn : n ≤ 2 ^ (53 : Nat))
    (h : (x * ofNat n).isFinite = false) : x * ofNat n = .infinite x.negative := by
  rw [mul_ofNat hx hn] at h ⊢
  have hnear := isNearest_ofUnits x.negative (x.units * n) Nat.one_pos
  rcases isFinite_or_infinite hnear.isNaN_eq with hfin | hinf
  · rw [h] at hfin
    cases hfin
  · rwa [negative_ofUnits] at hinf

/-- An infinity divided by anything is not finite. -/
theorem isFinite_infinite_div (s : Bool) (y : Binary64) : (infinite s / y).isFinite = false := by
  cases y <;> rfl

/-- A quotient by a whole number stays in range. -/
theorem isFinite_div_ofNat (hx : x.isFinite = true) (hpos : 0 < n) (hn : n ≤ 2 ^ (53 : Nat)) :
    (x / ofNat n).isFinite = true := by
  rw [div_ofNat hx hpos hn]
  have hnear := isNearest_ofUnits x.negative x.units hpos
  refine (isFinite_or_infinite hnear.isNaN_eq).resolve_right fun hinf => ?_
  rw [hinf] at hnear
  -- the number itself is nearer to its quotient than infinity is
  have hle := hnear.le (isNaN_of_isFinite hx)
  have hlimit : (x.units : ℚ) < limit := by exact_mod_cast units_lt_limit x
  have hquot : (x.units / n : ℚ) ≤ x.units :=
    div_le_self (Nat.cast_nonneg _) (by exact_mod_cast hpos)
  rw [span_infinite, span_of_isFinite hx, abs_of_nonneg (by linarith),
    abs_of_nonneg (by linarith)] at hle
  linarith

/-! ## Whole numbers -/

/-- A whole number is the nearest whole number to itself. -/
theorem roundAway_of_isIntegral (hx : x.isIntegral = true) : x.roundAway = x := by
  have hunits := units_of_isIntegral hx
  have hkept := ofUnits_units (isFinite_of_isIntegral hx) Nat.one_pos
  rw [Nat.mul_one, hunits] at hkept
  cases x with
  | nan | infinite => rfl
  | finite s m e hc =>
      have hwhole : (2 * (m * 2 ^ e) + unitsPerOne) / (2 * unitsPerOne) =
          (finite s m e hc).wholePart := by
        have hone := unitsPerOne_pos
        rw [show m * 2 ^ e = (finite s m e hc).wholePart * unitsPerOne from hunits,
          Nat.mul_left_comm, Nat.mul_comm _ (2 * unitsPerOne), Nat.mul_add_div (by omega),
          Nat.div_eq_of_lt (by omega), Nat.add_zero]
      change ofMagnitudeNat s _ = _
      rw [hwhole]
      exact hkept

/-- A product of whole numbers is whole. -/
theorem isIntegral_mul_ofNat (hx : x.isIntegral = true) (hn : n ≤ 2 ^ (53 : Nat))
    (hfin : (x * ofNat n).isFinite = true) : (x * ofNat n).isIntegral = true := by
  have hdvd : unitsPerOne ∣ (x * ofNat n).units := by
    have hunits : unitsPerOne ∣ x.units * n := by
      rw [units_of_isIntegral hx]
      exact Nat.dvd_mul_right_of_dvd (Nat.dvd_mul_left _ _) n
    rw [mul_ofNat (isFinite_of_isIntegral hx) hn]
    obtain ⟨k, hk⟩ : ∃ k, unitsPerOne = 2 ^ k := ⟨1074, rfl⟩
    rw [hk] at hunits ⊢
    exact two_pow_dvd_units_ofUnits hunits
  rw [isIntegral, hfin, Nat.mod_eq_zero_of_dvd hdvd]
  rfl

/-! ## The way back -/

/-- The distance from the absolute value of a finite number to the next greater one, in units. -/
def gap : Binary64 → Nat
  | .finite _ _ scale _ => 2 ^ scale
  | _ => 0

/-- The error of the product of a number with a whole number, in units. -/
def productError (x : Binary64) (n : Nat) : Nat :=
  ((x.units * n : Nat) - ((x * ofNat n).units : Int)).natAbs

/-- The product of a number with a whole number is off by less than half of what the next number
would add to it. -/
def ScalesBack (n : Nat) (x : Binary64) : Prop := 2 * x.productError n < n * x.gap

instance : Decidable (ScalesBack n x) := inferInstanceAs (Decidable (_ < _))

/-- There is a gap behind every finite number. -/
theorem gap_pos (hx : x.isFinite = true) : 0 < x.gap := by
  cases x with
  | nan | infinite => cases hx
  | finite s m e hc => exact Nat.two_pow_pos e

/-- A number is a multiple of its gap. -/
theorem exists_gap_eq (hx : x.isFinite = true) : ∃ e, x.gap = 2 ^ e ∧ 2 ^ e ∣ x.units := by
  cases x with
  | nan | infinite => cases hx
  | finite s m e hc => exact ⟨e, rfl, Nat.dvd_mul_left _ m⟩

/-- A product that is not rounded scales back. -/
theorem scalesBack_of_exact (hx : x.isFinite = true) (hpos : 0 < n)
    (h : (x * ofNat n).units = x.units * n) : ScalesBack n x := by
  rw [ScalesBack, productError, h, Int.sub_self, Int.natAbs_zero, Nat.mul_zero]
  exact Nat.mul_pos hpos (gap_pos hx)

/-- Products of whole numbers of at most `2 ^ 53` are exact, so they are divided back. -/
theorem scalesBack_of_wholePart_le (hx : x.isIntegral = true) (hpos : 0 < n)
    (hn : n ≤ 2 ^ (53 : Nat)) (h : x.wholePart * n ≤ 2 ^ (53 : Nat)) : ScalesBack n x := by
  have hunits : x.units * n = x.wholePart * n * unitsPerOne := by
    rw [units_of_isIntegral hx, Nat.mul_right_comm]
  apply scalesBack_of_exact (isFinite_of_isIntegral hx) hpos
  rw [mul_ofNat (isFinite_of_isIntegral hx) hn, hunits]
  exact (units_ofMagnitudeNat x.negative h).2

/-- The product of a power of two with a whole number needs no rounding. -/
theorem productError_eq_zero {hc : Canonical (2 ^ (52 : Nat)) e} (hn : n < 2 ^ (53 : Nat))
    (hfin : (finite s (2 ^ (52 : Nat)) e hc * ofNat n).isFinite = true) :
    (finite s (2 ^ (52 : Nat)) e hc).productError n = 0 := by
  have hproduct := mul_ofNat (x := finite s (2 ^ (52 : Nat)) e hc) rfl hn.le
  have hunits : (finite s (2 ^ (52 : Nat)) e hc).units * n = n * 2 ^ (52 + e) := by
    rw [units, ← Nat.pow_add, Nat.mul_comm]
  rw [hproduct, hunits] at hfin
  have hexact := units_ofUnits_of_dvd hfin (Nat.dvd_mul_left _ n)
    (Nat.mul_lt_mul_of_pos_right hn (Nat.two_pow_pos _))
  rw [productError, hproduct, hunits, hexact, Int.sub_self, Int.natAbs_zero]

/-- Other numbers differ from a number by its gap at least, unless this is a power of two, where the
numbers below stand closer. -/
theorem span_add_gap_le {m : Nat} {hc : Canonical m e} (hm : m ≠ 2 ^ (52 : Nat))
    (hy : y.isNaN = false) (hne : y.span ≠ (finite s m e hc).span) :
    y.span + (finite s m e hc).gap ≤ (finite s m e hc).span ∨
      (finite s m e hc).span + (finite s m e hc).gap ≤ y.span := by
  change y.span + 2 ^ e ≤ m * 2 ^ e ∨ m * 2 ^ e + 2 ^ e ≤ y.span
  rw [← Nat.add_one_mul]
  rcases span_eq_mul_or_lt hy hc.2.1 with ⟨k, hk⟩ | ⟨hpos, hlt⟩
  · rw [hk, ← Nat.add_one_mul]
    have hkm : k ≠ m := by
      rintro rfl
      exact hne hk
    rcases Nat.lt_or_gt_of_ne hkm with hlt | hgt
    · exact .inl (Nat.mul_le_mul_right _ hlt)
    · exact .inr (Nat.mul_le_mul_right _ hgt)
  · have hleast : 2 ^ (52 : Nat) + 1 ≤ m := by
      have := hc.2.2.resolve_left hpos.ne'
      omega
    have hmul := Nat.mul_le_mul_right (2 ^ e) hleast
    rw [Nat.add_one_mul] at hmul
    exact .inl (by omega)

/-- The error of the product is never exactly half of what the next number would add: the number,
its product and its gap are multiples of one power of two, the half is not. -/
theorem two_mul_productError_ne (hx : x.isFinite = true) (hpos : 0 < n)
    (hn : n ≤ 2 ^ (53 : Nat)) : 2 * x.productError n ≠ n * x.gap := by
  obtain ⟨e, hgap, hunits⟩ := exists_gap_eq hx
  obtain ⟨a, b, hodd, hsplit⟩ := Nat.exists_eq_two_pow_mul_odd hpos.ne'
  obtain rfl : n = 2 ^ a * b := hsplit
  have hgrid : 2 ^ (a + e) ∣ x.units * (2 ^ a * b) := by
    rw [Nat.pow_add, Nat.mul_comm x.units]
    exact Nat.mul_dvd_mul (Nat.dvd_mul_right _ b) hunits
  have herror : ((2 ^ (a + e) : Nat) : Int) ∣
      (x.units * (2 ^ a * b) : Nat) - (x * ofNat (2 ^ a * b)).units := by
    rw [mul_ofNat hx hn]
    exact Int.dvd_sub (Int.natCast_dvd_natCast.2 hgrid)
      (Int.natCast_dvd_natCast.2 (two_pow_dvd_units_ofUnits hgrid))
  obtain ⟨c, hc⟩ := Int.natCast_dvd.1 herror
  rw [productError, hc, hgap]
  intro heq
  have hhalf : 2 ^ (a + e) * (2 * c) = 2 ^ (a + e) * b := by
    calc 2 ^ (a + e) * (2 * c) = 2 * (2 ^ (a + e) * c) := Nat.mul_left_comm _ _ _
      _ = 2 ^ a * b * 2 ^ e := heq
      _ = 2 ^ (a + e) * b := by rw [Nat.pow_add, Nat.mul_right_comm]
  have heven : 2 * c = b := Nat.eq_of_mul_eq_mul_left (Nat.two_pow_pos _) hhalf
  exact Nat.not_even_iff_odd.2 hodd (heven ▸ even_two_mul c)

/-- A quotient is rounded by at most half of the gap of the result. -/
theorem two_mul_dist_le (hx : x.isFinite = true) (hd : 0 < d) (h : ofUnits s q d = x) :
    2 * ((x.units * d : Nat) - (q : Int)).natAbs ≤ d * x.gap := by
  generalize he : (q / d).log2 - 52 = e
  have hle : e ≤ 2045 := by
    by_contra hgt
    rw [← h, ofUnits_of_scale_gt s q (he ▸ Nat.not_le.1 hgt)] at hx
    cases hx
  have hspan := (span_ofUnits s q hd he hle).2.1
  have hhalf := two_mul_dist_roundQuotient_le q (Nat.mul_pos hd (Nat.two_pow_pos e))
  rw [h, span_of_isFinite hx] at hspan
  have hunits : x.units * d = roundQuotient q (d * 2 ^ e) * (d * 2 ^ e) := by
    rw [hspan]
    ring
  rw [← hunits] at hhalf
  have hgrid : 2 ^ e ≤ x.gap := by
    cases x with
    | nan | infinite => cases hx
    | finite t m f hc =>
        refine Nat.pow_le_pow_right (by decide) ?_
        by_contra hlt
        -- then the result would lie below the least value of the scale, and the quotient above it
        have hlow := (log2_scale q hd he).2 (by omega)
        have hbelow : m * 2 ^ f < 2 ^ (52 : Nat) * 2 ^ e := by
          calc m * 2 ^ f < 2 ^ (53 : Nat) * 2 ^ f :=
                Nat.mul_lt_mul_of_pos_right hc.1 (Nat.two_pow_pos f)
            _ = 2 ^ (52 : Nat) * 2 ^ (f + 1) := by ring
            _ ≤ 2 ^ (52 : Nat) * 2 ^ e :=
              Nat.mul_le_mul_left _ (Nat.pow_le_pow_right (by decide) (by omega))
        have hround : roundQuotient q (d * 2 ^ e) < 2 ^ (52 : Nat) :=
          Nat.lt_of_mul_lt_mul_right (a := 2 ^ e) (hspan ▸ hbelow)
        have hmul := Nat.mul_le_mul_right (d * 2 ^ e) hround
        rw [Nat.succ_mul, ← hunits] at hmul
        have hpos := Nat.mul_pos hd (Nat.two_pow_pos e)
        generalize d * 2 ^ e = step at *
        omega
  calc 2 * ((x.units * d : Nat) - (q : Int)).natAbs ≤ d * 2 ^ e := by omega
    _ ≤ d * x.gap := Nat.mul_le_mul_left d hgrid

/-- A product that is off by less than half is divided back. -/
theorem div_eq_self_of_scalesBack (hx : x.isFinite = true) (hpos : 0 < n)
    (hn : n < 2 ^ (53 : Nat)) (hfin : (x * ofNat n).isFinite = true) (h : ScalesBack n x) :
    x * ofNat n / ofNat n = x := by
  have hsign : (x * ofNat n).negative = x.negative := by
    rw [mul_ofNat hx hn.le, negative_ofUnits]
  rw [div_ofNat hfin hpos hn.le, hsign]
  by_cases hexact : x.productError n = 0
  · have hunits : (x * ofNat n).units = x.units * n :=
      (Int.ofNat_inj.1 (Int.sub_eq_zero.1 (Int.natAbs_eq_zero.1 hexact))).symm
    rw [hunits, ofUnits_units hx hpos]
  · cases x with
    | nan | infinite => cases hx
    | finite s m e hc =>
        have hm : m ≠ 2 ^ (52 : Nat) := by
          rintro rfl
          exact hexact (productError_eq_zero hn hfin)
        refine (isNearest_ofUnits s _ hpos).unique ⟨rfl, rfl, fun y hy hne => .inl ?_⟩
        rw [abs_sub_div _ _ hpos, abs_sub_div _ _ hpos]
        refine div_lt_div_of_pos_right ?_ (by exact_mod_cast hpos)
        have hdist := span_add_gap_le hm hy hne
        rw [ScalesBack, productError] at h
        change 2 * (((finite s m e hc).span * n : Nat) - ((_ : Nat) : Int)).natAbs < _ at h
        generalize (finite s m e hc).span = span at *
        generalize (finite s m e hc).gap = gap at *
        generalize ((finite s m e hc) * ofNat n).units = product at *
        have hscaled : y.span * n + n * gap ≤ span * n ∨ span * n + n * gap ≤ y.span * n := by
          rw [Nat.mul_comm n, ← Nat.add_mul, ← Nat.add_mul]
          exact hdist.imp (Nat.mul_le_mul_right n) (Nat.mul_le_mul_right n)
        exact_mod_cast (by omega : (((span * n : Nat) : Int) - product).natAbs <
          (((y.span * n : Nat) : Int) - product).natAbs)

/-- **Which numbers are divided back.** A product with a whole number that is in range is divided
back to the number exactly if it is off by less than half of what the next number would add. -/
theorem mul_div_eq_iff (hx : x.isFinite = true) (hpos : 0 < n) (hn : n < 2 ^ (53 : Nat))
    (hfin : (x * ofNat n).isFinite = true) : x * ofNat n / ofNat n = x ↔ ScalesBack n x := by
  refine ⟨fun heq => ?_, div_eq_self_of_scalesBack hx hpos hn hfin⟩
  rw [div_ofNat hfin hpos hn.le] at heq
  have hle := two_mul_dist_le hx hpos heq
  exact lt_of_le_of_ne hle (two_mul_productError_ne hx hpos hn.le)

end Binary64

end Dashboard
