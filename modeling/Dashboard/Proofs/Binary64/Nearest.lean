import Dashboard.Proofs.Binary64.Exact
import Dashboard.Proofs.Binary64.Order
import Mathlib.Algebra.Order.Field.Basic
import Mathlib.Algebra.Order.Field.Rat
import Mathlib.Algebra.Order.Ring.Abs
import Mathlib.Tactic.FieldSimp
import Mathlib.Tactic.Linarith

/-!
# Binary64.Nearest · correct rounding

`ofUnits` keeps 53 bits of a quotient. That this gives the nearest of all doubles is stated without
reference to bits: no other double is nearer to the exact value, and of two equally near ones the
even one is taken.

* **`span`** is the absolute value in units. For the question which double is nearest, infinity
  stands where the next number would, at `2 ^ 1024`.
* **`IsNearest negative v x`**: `x` is the double nearest to `v` units with a sign. There is at most
  one (**`IsNearest.unique`**).
* **`span_eq_mul_or_lt`**: from some scale on the doubles lie on the grid of the multiples of a
  power of two; the others lie below all values of that scale.
* **`isNearest_ofUnits`**: rounding gives the nearest double. Beyond the range of doubles this is
  infinity (**`isNearest_infinite`**), close to zero it is zero (**`isNearest_zero`**).
-/

namespace Dashboard

namespace Binary64

variable {x y : Binary64} {s : Bool} {n d e k q : Nat} {v : ℚ}

/-- The units of the number that would be next to the greatest double. -/
def limit : Nat := 2 ^ (53 + 2045 : Nat)

/-- The absolute value in units. The infinities stand where the next number would. -/
def span : Binary64 → Nat
  | .infinite _ => limit
  | x => x.units

/-- The double `x` is the one nearest to `v` units with a sign. Of two doubles that are equally near
it is the one whose last bit is even. -/
structure IsNearest (negative : Bool) (v : ℚ) (x : Binary64) : Prop where
  isNaN_eq : x.isNaN = false
  negative_eq : x.negative = negative
  nearest (y : Binary64) : y.isNaN = false → y.span ≠ x.span →
    |(x.span : ℚ) - v| < |(y.span : ℚ) - v| ∨
      |(x.span : ℚ) - v| = |(y.span : ℚ) - v| ∧ x.magnitude % 2 = 0

/-! ## The doubles on a grid -/

/-- The span of a finite number is counted in units. -/
theorem span_of_isFinite (h : x.isFinite = true) : x.span = x.units := by
  cases x with
  | nan | infinite => cases h
  | finite => rfl

/-- The span of an infinity is the limit. -/
theorem span_infinite : (infinite s).span = limit := rfl

/-- Units stay below the limit. -/
theorem units_lt_limit (x : Binary64) : x.units < limit := by
  rw [limit]
  exact @units_lt x 2045 le_rfl

/-- The limit is a power of two, counted in the units of any scale up to it. -/
theorem limit_eq (he : e ≤ 53 + 2045) : limit = 2 ^ (53 + 2045 - e) * 2 ^ e := by
  rw [limit, ← Nat.pow_add, Nat.sub_add_cancel he]

/-- Beyond the last scale every long significand reaches the limit. -/
theorem limit_le (he : 2045 < e) : limit ≤ 2 ^ (52 : Nat) * 2 ^ e := by
  obtain ⟨j, hj⟩ : ∃ j, 52 + e = 53 + 2045 + j := Nat.exists_eq_add_of_le (by omega)
  rw [← Nat.pow_add, hj, Nat.pow_add, ← limit]
  exact Nat.le_mul_of_pos_right limit (Nat.two_pow_pos j)

/-- What is not NaN is finite or an infinity. -/
theorem isFinite_or_infinite (h : x.isNaN = false) :
    x.isFinite = true ∨ x = .infinite x.negative := by
  cases x with
  | nan => cases h
  | infinite => exact .inr rfl
  | finite => exact .inl rfl

/-- No span is beyond the limit. -/
theorem span_le (x : Binary64) : x.span ≤ limit := by
  cases x with
  | infinite => exact le_rfl
  | nan s p h => exact (units_lt_limit (nan s p h)).le
  | finite s m e h => exact (units_lt_limit (finite s m e h)).le

/-- The double on the grid of a scale, or below the values that have this scale. -/
theorem span_eq_mul_or_lt (hx : x.isNaN = false) (he : e ≤ 2045) :
    (∃ k, x.span = k * 2 ^ e) ∨ 0 < e ∧ x.span < 2 ^ (52 : Nat) * 2 ^ e := by
  cases x with
  | nan => cases hx
  | infinite s =>
      exact .inl ⟨_, limit_eq (by omega)⟩
  | finite s m f hc =>
      change (∃ k, m * 2 ^ f = k * 2 ^ e) ∨ 0 < e ∧ m * 2 ^ f < 2 ^ (52 : Nat) * 2 ^ e
      rcases Nat.lt_or_ge f e with hlt | hle
      · refine .inr ⟨Nat.zero_lt_of_lt hlt, ?_⟩
        calc m * 2 ^ f < 2 ^ (53 : Nat) * 2 ^ f :=
              Nat.mul_lt_mul_of_pos_right hc.1 (Nat.two_pow_pos f)
          _ = 2 ^ (52 : Nat) * 2 ^ (f + 1) := by ring
          _ ≤ 2 ^ (52 : Nat) * 2 ^ e :=
            Nat.mul_le_mul_left _ (Nat.pow_le_pow_right (by decide) hlt)
      · refine .inl ⟨m * 2 ^ (f - e), ?_⟩
        rw [Nat.mul_assoc, ← Nat.pow_add, Nat.sub_add_cancel hle]

/-- A double is known by its sign and its span. -/
theorem eq_of_span_eq (hx : x.isNaN = false) (hy : y.isNaN = false)
    (hsign : x.negative = y.negative) (h : x.span = y.span) : x = y := by
  rcases isFinite_or_infinite hx with hxf | hxi
  · rcases isFinite_or_infinite hy with hyf | hyi
    · rw [span_of_isFinite hxf, span_of_isFinite hyf] at h
      rw [← ofUnits_units hxf Nat.one_pos, ← ofUnits_units hyf Nat.one_pos, hsign, h]
    · rw [span_of_isFinite hxf, hyi, span_infinite] at h
      exact absurd h (units_lt_limit x).ne
  · rcases isFinite_or_infinite hy with hyf | hyi
    · rw [span_of_isFinite hyf, hxi, span_infinite] at h
      exact absurd h (units_lt_limit y).ne'
    · rw [hxi, hyi, hsign]

/-! ## The nearest natural number -/

/-- Rounding a quotient misses it by at most one half, and by one half only with an even
result. -/
theorem two_mul_dist_roundQuotient_le (n : Nat) (hd : 0 < d) :
    2 * ((roundQuotient n d * d : Nat) - (n : Int)).natAbs < d ∨
      2 * ((roundQuotient n d * d : Nat) - (n : Int)).natAbs = d ∧ roundQuotient n d % 2 = 0 := by
  have hdiv := Nat.div_add_mod n d
  have hmod := Nat.mod_lt n hd
  rw [Nat.mul_comm] at hdiv
  unfold roundQuotient
  dsimp only
  split_ifs with hlow hhigh
  · omega
  · rw [Nat.add_one_mul (n / d) d]
    omega
  · rcases Nat.mod_two_eq_zero_or_one (n / d) with heven | hodd
    · rw [heven, Nat.add_zero]
      omega
    · rw [hodd, Nat.add_one_mul (n / d) d]
      omega

/-- No natural number is nearer to a quotient than the rounded one. -/
theorem roundQuotient_nearest (n : Nat) (hd : 0 < d) (hk : k ≠ roundQuotient n d) :
    ((roundQuotient n d * d : Nat) - (n : Int)).natAbs < ((k * d : Nat) - (n : Int)).natAbs ∨
      ((roundQuotient n d * d : Nat) - (n : Int)).natAbs = ((k * d : Nat) - (n : Int)).natAbs ∧
        roundQuotient n d % 2 = 0 := by
  have hhalf := two_mul_dist_roundQuotient_le n hd
  generalize roundQuotient n d = q at hk hhalf ⊢
  -- another natural number is off by at least one divisor more
  have hstep : k * d + d ≤ q * d ∨ q * d + d ≤ k * d := by
    rw [← Nat.add_one_mul, ← Nat.add_one_mul]
    rcases Nat.lt_or_gt_of_ne hk with hlt | hgt
    · exact .inl (Nat.mul_le_mul_right d hlt)
    · exact .inr (Nat.mul_le_mul_right d hgt)
  omega

/-! ## Rounding -/

/-- The scale that rounding chooses: the quotient has 53 bits, or fewer at the scale zero. -/
theorem log2_scale (n : Nat) (hd : 0 < d) (he : (n / d).log2 - 52 = e) :
    n < 2 ^ (53 : Nat) * (d * 2 ^ e) ∧ (0 < e → 2 ^ (52 : Nat) * (d * 2 ^ e) ≤ n) := by
  have hgrid (k : Nat) : 2 ^ k * (d * 2 ^ e) = 2 ^ (k + e) * d := by ring
  rw [hgrid, hgrid]
  have hhigh : n / d < 2 ^ (53 + e) :=
    lt_of_lt_of_le Nat.lt_log2_self (Nat.pow_le_pow_right (by decide) (by omega))
  refine ⟨(Nat.div_lt_iff_lt_mul hd).1 hhigh, fun hpos => ?_⟩
  have hne : n / d ≠ 0 := by
    intro hzero
    rw [hzero] at he
    simp at he
    omega
  have hlow : 2 ^ (52 + e) ≤ n / d := by
    rw [show 52 + e = (n / d).log2 by omega]
    exact Nat.log2_self_le hne
  exact (Nat.le_div_iff_mul_le hd).1 hlow

/-- Within the range of doubles, rounding gives the rounded quotient on the grid of its scale. The
significand may have grown to `2 ^ 53`; then it is written with the next scale, or it is
infinity. -/
theorem span_ofUnits (s : Bool) (n : Nat) (hd : 0 < d) (he : (n / d).log2 - 52 = e)
    (hle : e ≤ 2045) :
    (ofUnits s n d).isNaN = false ∧ (ofUnits s n d).span = roundQuotient n (d * 2 ^ e) * 2 ^ e ∧
      (ofUnits s n d).magnitude % 2 = roundQuotient n (d * 2 ^ e) % 2 := by
  obtain ⟨hhigh, hlow⟩ := log2_scale n hd he
  have hD : 0 < d * 2 ^ e := Nat.mul_pos hd (Nat.two_pow_pos e)
  have hq := two_mul_dist_roundQuotient_le n hD
  have hofUnits : ofUnits s n d = pack s (roundQuotient n (d * 2 ^ e)) e := by
    rw [ofUnits, he]
  rw [hofUnits]
  generalize roundQuotient n (d * 2 ^ e) = q at hq ⊢
  have hq53 : q ≤ 2 ^ (53 : Nat) := by
    by_contra hlt
    have hmul : (2 ^ (53 : Nat) + 1) * (d * 2 ^ e) ≤ q * (d * 2 ^ e) :=
      Nat.mul_le_mul_right _ (by omega)
    rw [Nat.add_one_mul] at hmul
    omega
  have hq52 : e = 0 ∨ 2 ^ (52 : Nat) ≤ q := by
    by_contra hlt
    rw [not_or] at hlt
    have hmul : (q + 1) * (d * 2 ^ e) ≤ 2 ^ (52 : Nat) * (d * 2 ^ e) :=
      Nat.mul_le_mul_right _ (by omega)
    rw [Nat.add_one_mul] at hmul
    have hlow := hlow (by omega)
    omega
  unfold pack
  split_ifs with hc hc'
  · refine ⟨rfl, rfl, ?_⟩
    simp only [magnitude]
    omega
  · obtain rfl : q = 2 ^ (53 : Nat) := by
      unfold Canonical at hc
      omega
    refine ⟨rfl, ?_, ?_⟩
    · change 2 ^ (53 : Nat) / 2 * 2 ^ (e + 1) = 2 ^ (53 : Nat) * 2 ^ e
      rw [Nat.pow_succ']
      omega
    · simp only [magnitude]
      omega
  · obtain ⟨rfl, he⟩ : q = 2 ^ (53 : Nat) ∧ e = 2045 := by
      unfold Canonical at hc hc'
      omega
    have hlimit := @limit_eq e (by omega)
    rw [show 53 + 2045 - e = 53 by omega] at hlimit
    refine ⟨rfl, hlimit, ?_⟩
    simp only [magnitude]

/-- Above the range of doubles, rounding gives infinity. -/
theorem ofUnits_of_scale_gt (s : Bool) (n : Nat) (he : 2045 < (n / d).log2 - 52) :
    ofUnits s n d = .infinite s := by
  have hcanonical (m : Nat) {f : Nat} (hf : 2045 < f) : ¬Canonical m f := fun hc =>
    absurd hc.2.1 (Nat.not_le.2 hf)
  rw [ofUnits, pack, dif_neg (hcanonical _ he), dif_neg (hcanonical _ (Nat.lt_succ_of_lt he))]

/-! ## Nearest doubles -/

/-- Distances to a quotient, without the quotient. -/
theorem abs_sub_div (a n : Nat) (hd : 0 < d) :
    |(a : ℚ) - n / d| = (((a * d : Nat) - (n : Int)).natAbs : ℚ) / d := by
  have hd' : (0 : ℚ) < d := by exact_mod_cast hd
  have hdiv : (a : ℚ) - n / d = (a * d - n) / d := by field_simp
  rw [hdiv, abs_div, abs_of_pos hd', Nat.cast_natAbs]
  push_cast
  rfl

/-- No double is nearer to a large value than infinity. -/
theorem isNearest_infinite (s : Bool) (hv : (limit : ℚ) ≤ v) : IsNearest s v (.infinite s) where
  isNaN_eq := rfl
  negative_eq := rfl
  nearest y _ hne := by
    rw [span_infinite] at hne ⊢
    have hlt : (y.span : ℚ) < limit := by exact_mod_cast lt_of_le_of_ne (span_le y) hne
    refine .inl ?_
    rw [abs_sub_comm, abs_sub_comm (y.span : ℚ), abs_of_nonneg (by linarith),
      abs_of_pos (by linarith)]
    linarith

/-- No double is nearer to a value of at most half a unit than zero. -/
theorem isNearest_zero (s : Bool) (h₀ : 0 ≤ v) (hv : v ≤ 1 / 2) : IsNearest s v (.zero s) where
  isNaN_eq := rfl
  negative_eq := rfl
  nearest y _ hne := by
    have hspan : (zero s).span = 0 := by simp [zero, span, units]
    rw [hspan] at hne ⊢
    have hone : (1 : ℚ) ≤ y.span := by exact_mod_cast Nat.one_le_iff_ne_zero.2 hne
    have hy : |(y.span : ℚ) - v| = y.span - v := abs_of_nonneg (by linarith)
    have hzero : |((0 : Nat) : ℚ) - v| = v := by
      rw [Nat.cast_zero, zero_sub, abs_neg, abs_of_nonneg h₀]
    rw [hy, hzero]
    rcases lt_or_eq_of_le (show v ≤ y.span - v by linarith) with hlt | heq
    · exact .inl hlt
    · exact .inr ⟨heq, rfl⟩

/-- No double is nearer to a quotient than the one on the grid of its scale. -/
theorem span_nearest (n : Nat) (hd : 0 < d) (he : (n / d).log2 - 52 = e) (hle : e ≤ 2045)
    (hy : y.isNaN = false) (hne : y.span ≠ roundQuotient n (d * 2 ^ e) * 2 ^ e) :
    ((roundQuotient n (d * 2 ^ e) * 2 ^ e * d : Nat) - (n : Int)).natAbs <
        ((y.span * d : Nat) - (n : Int)).natAbs ∨
      ((roundQuotient n (d * 2 ^ e) * 2 ^ e * d : Nat) - (n : Int)).natAbs =
        ((y.span * d : Nat) - (n : Int)).natAbs ∧ roundQuotient n (d * 2 ^ e) % 2 = 0 := by
  have hD : 0 < d * 2 ^ e := Nat.mul_pos hd (Nat.two_pow_pos e)
  have hgrid (k : Nat) : k * 2 ^ e * d = k * (d * 2 ^ e) := by ring
  rw [hgrid]
  rcases span_eq_mul_or_lt hy hle with ⟨k, hk⟩ | ⟨hpos, hlt⟩
  · rw [hk, hgrid]
    exact roundQuotient_nearest n hD fun h => hne (by rw [hk, h])
  · -- the least value of the scale lies between the double and the quotient
    have hlow := (log2_scale n hd he).2 hpos
    have hbelow : y.span * d < 2 ^ (52 : Nat) * (d * 2 ^ e) := by
      rw [← hgrid]
      exact Nat.mul_lt_mul_of_pos_right hlt hd
    by_cases hleast : 2 ^ (52 : Nat) = roundQuotient n (d * 2 ^ e)
    · rw [← hleast]
      omega
    · have hnear := roundQuotient_nearest n hD hleast
      omega

/-- **Rounding gives the nearest double.** -/
theorem isNearest_ofUnits (s : Bool) (n : Nat) (hd : 0 < d) :
    IsNearest s (n / d : ℚ) (ofUnits s n d) := by
  have hd' : (0 : ℚ) < d := by exact_mod_cast hd
  generalize he : (n / d).log2 - 52 = e
  rcases Nat.lt_or_ge 2045 e with hlarge | hle
  · rw [ofUnits_of_scale_gt s n (he ▸ hlarge)]
    have hlow := (log2_scale n hd he).2 (by omega)
    have hlimit : limit * d ≤ n := by
      rw [Nat.mul_left_comm, Nat.mul_comm d] at hlow
      exact (Nat.mul_le_mul_right d (limit_le hlarge)).trans hlow
    exact isNearest_infinite s ((le_div_iff₀ hd').2 (by exact_mod_cast hlimit))
  · obtain ⟨hnan, hspan, heven⟩ := span_ofUnits s n hd he hle
    refine ⟨hnan, negative_ofUnits s n d, fun y hy hne => ?_⟩
    rw [hspan] at hne ⊢
    rw [heven, abs_sub_div _ n hd, abs_sub_div _ n hd]
    rcases span_nearest n hd he hle hy hne with hlt | ⟨heq, heven⟩
    · exact .inl (div_lt_div_of_pos_right (by exact_mod_cast hlt) hd')
    · exact .inr ⟨by rw [heq], heven⟩

/-! ## Uniqueness -/

/-- Next to a finite number with an even last bit stands one with an odd last bit. -/
theorem exists_next (hx : x.isFinite = true) (heven : x.magnitude % 2 = 0) :
    ∃ z : Binary64, z.isNaN = false ∧ z.negative = x.negative ∧ z.magnitude % 2 = 1 ∧
      x.span < z.span ∧ ∀ y : Binary64, y.isNaN = false → x.span < y.span → z.span ≤ y.span := by
  cases x with
  | nan | infinite => cases hx
  | finite s m e hc =>
      have hm : m % 2 = 0 := by
        simp only [magnitude] at heven
        omega
      have hnext : Canonical (m + 1) e := by
        unfold Canonical at hc ⊢
        omega
      refine ⟨.finite s (m + 1) e hnext, rfl, rfl, ?_, ?_, fun y hy hlt => ?_⟩
      · simp only [magnitude]
        omega
      · exact Nat.mul_lt_mul_of_pos_right (Nat.lt_succ_self m) (Nat.two_pow_pos e)
      · change m * 2 ^ e < y.span at hlt
        change (m + 1) * 2 ^ e ≤ y.span
        rcases span_eq_mul_or_lt hy hc.2.1 with ⟨k, hk⟩ | ⟨hpos, hsmall⟩
        · rw [hk] at hlt ⊢
          exact Nat.mul_le_mul_right _ (Nat.lt_of_mul_lt_mul_right hlt)
        · have hleast : 2 ^ (52 : Nat) ≤ m := hc.2.2.resolve_left hpos.ne'
          exact absurd (hlt.trans hsmall) (Nat.not_lt.2 (Nat.mul_le_mul_right _ hleast))

namespace IsNearest

/-- A nearest number is no farther off than any other. -/
theorem le (h : IsNearest s v x) (hy : y.isNaN = false) :
    |(x.span : ℚ) - v| ≤ |(y.span : ℚ) - v| := by
  by_cases hne : y.span = x.span
  · rw [hne]
  · rcases h.nearest y hy hne with hlt | ⟨heq, -⟩
    · exact hlt.le
    · exact heq.le

/-- Of two numbers that are equally near, the even one is taken. -/
theorem even (h : IsNearest s v x) (hy : IsNearest s v y) (hne : y.span ≠ x.span) :
    x.magnitude % 2 = 0 := by
  rcases h.nearest y hy.isNaN_eq hne with hlt | ⟨-, heven⟩
  · exact absurd (hy.le h.isNaN_eq) (not_le.2 hlt)
  · exact heven

/-- Between two doubles that are equally near to a value stands a nearer one. -/
theorem not_span_lt (hx : IsNearest s v x) (hy : IsNearest s v y) : ¬x.span < y.span := by
  intro hlt
  have hfin : x.isFinite = true := (isFinite_or_infinite hx.isNaN_eq).resolve_right fun hinf => by
    rw [hinf, span_infinite] at hlt
    exact absurd (span_le y) (Nat.not_le.2 hlt)
  obtain ⟨z, hznan, hzsign, hzodd, hxz, hleast⟩ := exists_next hfin (hx.even hy hlt.ne')
  have hzy : z.span < y.span := by
    refine lt_of_le_of_ne (hleast y hy.isNaN_eq hlt) fun heq => ?_
    obtain rfl := eq_of_span_eq hznan hy.isNaN_eq
      (hzsign.trans (hx.negative_eq.trans hy.negative_eq.symm)) heq
    have heven := hy.even hx hlt.ne
    omega
  have hxz' : (x.span : ℚ) < z.span := by exact_mod_cast hxz
  have hzy' : (z.span : ℚ) < y.span := by exact_mod_cast hzy
  have hbetween : |(z.span : ℚ) - v| < |(x.span : ℚ) - v| := by
    have hleft := neg_abs_le ((x.span : ℚ) - v)
    have hright := le_trans (le_abs_self ((y.span : ℚ) - v)) (hy.le hx.isNaN_eq)
    rw [abs_lt]
    constructor <;> linarith
  exact absurd (hx.le hznan) (not_le.2 hbetween)

/-- **There is one nearest double.** -/
theorem unique (hx : IsNearest s v x) (hy : IsNearest s v y) : x = y :=
  eq_of_span_eq hx.isNaN_eq hy.isNaN_eq (hx.negative_eq.trans hy.negative_eq.symm)
    (le_antisymm (not_lt.1 (hy.not_span_lt hx)) (not_lt.1 (hx.not_span_lt hy)))

end IsNearest

end Binary64

end Dashboard
