import Dashboard.Decimal.Layout
import Dashboard.Proofs.Binary64.Exact
import Dashboard.Proofs.Decimal.Literal

/-!
# Decimal.ReadBack · printed numbers read back

The plain form of a finite number is a sign and a plain text, and reading the text with that sign
gives the number.

* **`toBinary64_shortest`**: the shortest decimal of a number denotes the number. Either the search
  has tested this, or the answer is the exact value, which needs no rounding.
* **`exists_plain_positional`**: writing a decimal without an exponent keeps what it denotes.
* **`exists_plain_plainChars`** puts the two together. Negative zero is written as `0`.
-/

namespace Dashboard

namespace Decimal

open Binary64

/-! ## Digits -/

/-- The digits of a number are digits. -/
theorem isDigit_digits (n : Nat) : ∀ c ∈ digits n, c.isDigit = true :=
  fun _ hc => Nat.isDigit_of_mem_toDigits (by decide) (by decide) hc

/-- The digits of a number are read back as the number. -/
theorem ofDigits_digits (n : Nat) : ofDigits (digits n) = n := Nat.ofDigitChars_ten_toDigits

/-- A number has few digits if it is smaller than a power of ten. -/
theorem length_digits_le_iff {n k : Nat} (hk : 0 < k) : (digits n).length ≤ k ↔ n < 10 ^ k :=
  Nat.length_toDigits_le_iff (by decide) hk

/-- Zeros are digits. -/
theorem isDigit_replicate (n : Nat) : ∀ c ∈ List.replicate n '0', c.isDigit = true := by
  intro c hc
  rw [(List.mem_replicate.1 hc).2]
  decide

/-- Zeros behind the digits multiply by powers of ten. -/
theorem ofDigits_append_zeros (ds : List Char) (e : Nat) :
    ofDigits (ds ++ List.replicate e '0') = ofDigits ds * 10 ^ e := by
  rw [ofDigits, Nat.ofDigitChars_append, Nat.ofDigitChars_replicate_zero, Nat.mul_comm, ofDigits]

/-- Zeros in front of the digits change nothing. -/
theorem ofDigits_zeros_append (e : Nat) (ds : List Char) :
    ofDigits (List.replicate e '0' ++ ds) = ofDigits ds := by
  rw [ofDigits, Nat.ofDigitChars_append, Nat.ofDigitChars_replicate_zero, Nat.mul_zero, ofDigits]

/-- A factor of ten is a zero at the end. -/
theorem digits_mul_pow {n : Nat} (hn : 0 < n) (e : Nat) :
    digits (n * 10 ^ e) = digits n ++ List.replicate e '0' := by
  induction e with
  | zero => simp
  | succ e ih =>
      have hpos : 0 < n * 10 ^ e := Nat.mul_pos hn (Nat.pow_pos (by decide))
      have happ := Nat.toDigits_append_toDigits (b := 10) (by decide) hpos (d := 0) (by decide)
      rw [show n * 10 ^ (e + 1) = 10 * (n * 10 ^ e) + 0 by ring, digits, ← happ, ← digits, ih,
        Nat.toDigits_zero, List.append_assoc, List.replicate_succ']

/-! ## What a decimal denotes -/

/-- The same decimal with another sign. -/
def withSign (d : Decimal) (negative : Bool) : Decimal := { d with negative := negative }

/-- The sign goes through rounding. -/
theorem toBinary64_not (d : Decimal) :
    (d.withSign (!d.negative)).toBinary64 = -d.toBinary64 := by
  unfold toBinary64 withSign
  dsimp only
  split
  · rfl
  · split
    · rfl
    · split
      · rfl
      · split <;> exact ofUnits_not

/-- Within the range of the table, a whole decimal is rounded from its exact value. -/
theorem toBinary64_ofNat {s : Bool} {c e : Nat} (hc : c ≠ 0)
    (hsize : (digits c).length + e ≤ 310) :
    toBinary64 ⟨s, c, Int.ofNat e⟩ = ofUnits s (c * 10 ^ e * unitsPerOne) 1 := by
  have hhigh : ¬(310 : Int) < (digits c).length + Int.ofNat e := by
    rw [Int.ofNat_eq_natCast]
    omega
  have hlow : ¬((digits c).length + Int.ofNat e : Int) < -330 := by
    rw [Int.ofNat_eq_natCast]
    omega
  simp only [toBinary64, if_neg hc, if_neg hhigh, if_neg hlow]

/-- Within the range of the table, a fraction is rounded from its exact value. -/
theorem toBinary64_negSucc {s : Bool} {c e : Nat} (hc : c ≠ 0)
    (hhigh : (digits c).length ≤ 310 + (e + 1)) (hlow : e + 1 ≤ (digits c).length + 330) :
    toBinary64 ⟨s, c, Int.negSucc e⟩ = ofUnits s (c * unitsPerOne) (10 ^ (e + 1)) := by
  have hhigh : ¬(310 : Int) < (digits c).length + Int.negSucc e := by
    rw [Int.negSucc_eq]
    omega
  have hlow : ¬((digits c).length + Int.negSucc e : Int) < -330 := by
    rw [Int.negSucc_eq]
    omega
  simp only [toBinary64, if_neg hc, if_neg hhigh, if_neg hlow]

/-- Moving a power of ten into the coefficient changes nothing. -/
theorem toBinary64_mul_pow (s : Bool) (c k : Nat) (e : Int) :
    toBinary64 ⟨s, c * 10 ^ k, e⟩ = toBinary64 ⟨s, c, e + k⟩ := by
  by_cases hc : c = 0
  · subst hc
    simp [toBinary64]
  have hpos : 0 < c := Nat.pos_of_ne_zero hc
  have hc' : c * 10 ^ k ≠ 0 := (Nat.mul_pos hpos (Nat.pow_pos (by decide))).ne'
  have hsize : ((digits (c * 10 ^ k)).length + e : Int) = (digits c).length + (e + k) := by
    rw [digits_mul_pow hpos, List.length_append, List.length_replicate]
    omega
  have hten : ∀ n : Nat, 0 < 10 ^ n := fun n => Nat.pow_pos (by decide)
  -- the range checks agree, so only the two quotients remain
  cases e with
  | ofNat e =>
      have hexact : c * 10 ^ k * 10 ^ e * unitsPerOne = c * 10 ^ (e + k) * unitsPerOne := by ring
      simp only [toBinary64, if_neg hc, if_neg hc', hsize, hexact]
      rfl
  | negSucc e =>
      rcases Nat.lt_or_ge e k with hk | hk
      · obtain ⟨j, rfl⟩ := Nat.exists_eq_add_of_lt hk
        have hsum : Int.negSucc e + (e + j + 1 : Nat) = Int.ofNat j := by
          rw [Int.ofNat_eq_natCast]
          omega
        have hexact : c * 10 ^ (e + j + 1) * unitsPerOne =
            c * 10 ^ j * unitsPerOne * 10 ^ (e + 1) := by ring
        have hround := @ofUnits_mul s (c * 10 ^ j * unitsPerOne) 1 _ (hten (e + 1))
        rw [Nat.one_mul, ← hexact] at hround
        rw [hsum] at hsize ⊢
        simp only [toBinary64, if_neg hc, if_neg hc', hsize, hround]
      · obtain ⟨j, rfl⟩ := Nat.exists_eq_add_of_le hk
        have hsum : Int.negSucc (k + j) + (k : Nat) = Int.negSucc j := by omega
        have hexact : c * 10 ^ k * unitsPerOne = c * unitsPerOne * 10 ^ k := by ring
        have hround := @ofUnits_mul s (c * unitsPerOne) (10 ^ (j + 1)) _ (hten k)
        rw [← hexact, ← Nat.pow_add, show j + 1 + k = k + j + 1 by omega] at hround
        rw [hsum] at hsize ⊢
        simp only [toBinary64, if_neg hc, if_neg hc', hsize, hround]

/-! ## The shortest decimal -/

section finite

variable {x : Binary64}

/-- The exact value of a number denotes the number: a unit is `5 ^ 1074 / 10 ^ 1074`. -/
theorem toBinary64_exact (hfin : x.isFinite = true) (hne : x.isZero = false) :
    (exact x).toBinary64 = x := by
  have hpos := units_pos hfin hne
  have hten : 5 ^ (1074 : Nat) * unitsPerOne = 10 ^ (1073 + 1 : Nat) := by decide +kernel
  have hgreat : 2 ^ (53 + 2045 : Nat) * 5 ^ (1074 : Nat) ≤ 10 ^ (310 + (1073 + 1) : Nat) := by
    decide +kernel
  have hsmall : 10 ^ (744 : Nat) ≤ 5 ^ (1074 : Nat) := by decide +kernel
  change toBinary64 ⟨x.negative, x.units * 5 ^ (1074 : Nat), Int.negSucc 1073⟩ = x
  generalize 5 ^ (1074 : Nat) = q at hten hgreat hsmall ⊢
  have hq : 0 < q := lt_of_lt_of_le (Nat.pow_pos (by decide)) hsmall
  have hhigh : (digits (x.units * q)).length ≤ 310 + (1073 + 1) := by
    rw [length_digits_le_iff (by decide)]
    exact lt_of_lt_of_le (Nat.mul_lt_mul_of_pos_right (units_lt x le_rfl) hq) hgreat
  have hlow : 1073 + 1 ≤ (digits (x.units * q)).length + 330 := by
    by_contra hlt
    have hlen : (digits (x.units * q)).length ≤ 744 := by omega
    rw [length_digits_le_iff (by decide)] at hlen
    have hle : q ≤ x.units * q := Nat.le_mul_of_pos_left _ hpos
    exact absurd (lt_of_lt_of_le hlen hsmall) (not_lt.2 hle)
  have hp : 0 < q * unitsPerOne := Nat.mul_pos hq unitsPerOne_pos
  rw [toBinary64_negSucc (Nat.mul_pos hpos hq).ne' hhigh hlow, Nat.mul_assoc, ← hten]
  exact ofUnits_units hfin hp

/-- What the search on a grid finds has been read back. -/
theorem toBinary64_of_onGrid? {tie : Tie} {power : Int} {d : Decimal}
    (h : onGrid? tie x power = some d) : d.toBinary64 = x := by
  have tested : ∀ first second : Decimal,
      (if readsAs x first then some first else if readsAs x second then some second else none) =
        some d → readsAs x d = true := by
    intro first second hsome
    split_ifs at hsome with h₁ h₂
    · rwa [← Option.some.inj hsome]
    · rwa [← Option.some.inj hsome]
  exact of_decide_eq_true (tested _ _ h)

/-- **The shortest decimal of a number denotes the number.** -/
theorem toBinary64_shortest (tie : Tie) (hfin : x.isFinite = true) (hne : x.isZero = false) :
    (shortest tie x).toBinary64 = x := by
  unfold shortest
  dsimp only
  cases hfind : (List.range 18).findSome? fun (n : Nat) =>
      onGrid? tie x (leadingPower x.units + 1 - n) with
  | none => exact toBinary64_exact hfin hne
  | some d =>
      obtain ⟨n, -, hn⟩ := List.exists_of_findSome?_eq_some hfind
      exact toBinary64_of_onGrid? hn

end finite

/-! ## Writing without an exponent -/

/-- **Writing a decimal without an exponent keeps what it denotes.** -/
theorem exists_plain_positional (d : Decimal) :
    ∃ s, Plain s ∧ d.positional = signChars d.negative ++ s ∧
      ((ofPlain s).withSign d.negative).toBinary64 = d.toBinary64 := by
  obtain ⟨negative, c, exponent⟩ := d
  have hdigits := isDigit_digits c
  have hne : digits c ≠ [] := Nat.toDigits_ne_nil
  cases exponent with
  | ofNat e =>
      have hall : ∀ d ∈ digits c ++ List.replicate e '0', d.isDigit = true :=
        List.forall_mem_append.2 ⟨hdigits, isDigit_replicate e⟩
      refine ⟨digits c ++ List.replicate e '0', plain_digits hall (by simp [hne]), rfl, ?_⟩
      rw [ofPlain_digits hall, ofDigits_append_zeros, ofDigits_digits]
      have hmove := toBinary64_mul_pow negative c e 0
      rwa [Int.zero_add] at hmove
  | negSucc e =>
      by_cases hlen : e + 1 < (digits c).length
      · have htake : ∀ d ∈ (digits c).take ((digits c).length - (e + 1)), d.isDigit = true :=
          fun d hd => hdigits d (List.mem_of_mem_take hd)
        have hdrop : ∀ d ∈ (digits c).drop ((digits c).length - (e + 1)), d.isDigit = true :=
          fun d hd => hdigits d (List.mem_of_mem_drop hd)
        have hplaces : ((digits c).drop ((digits c).length - (e + 1))).length = e + 1 := by
          rw [List.length_drop]
          omega
        have hfraction : (digits c).drop ((digits c).length - (e + 1)) ≠ [] := by
          rw [← List.length_pos_iff, hplaces]
          omega
        refine ⟨_, plain_point htake hdrop (fun h => hfraction h.2), ?_, ?_⟩
        · simp only [positional, if_pos hlen]
        · rw [ofPlain_point htake hdrop, List.take_append_drop, ofDigits_digits, hplaces]
          rfl
      · have hzero : ∀ d ∈ ['0'], d.isDigit = true := List.forall_mem_singleton.2 (by decide)
        have hall : ∀ d ∈ List.replicate (e + 1 - (digits c).length) '0' ++ digits c,
            d.isDigit = true := List.forall_mem_append.2 ⟨isDigit_replicate _, hdigits⟩
        have hplaces :
            (List.replicate (e + 1 - (digits c).length) '0' ++ digits c).length = e + 1 := by
          rw [List.length_append, List.length_replicate]
          omega
        refine ⟨_, plain_point hzero hall (by simp), ?_, ?_⟩
        · simp only [positional, if_neg hlen]
          rfl
        · have hread : ofDigits (['0'] ++
              (List.replicate (e + 1 - (digits c).length) '0' ++ digits c)) = c := by
            change ofDigits (List.replicate (e + 1 - (digits c).length + 1) '0' ++ digits c) = c
            rw [ofDigits_zeros_append, ofDigits_digits]
          rw [ofPlain_point hzero hall, hread, hplaces]
          rfl

/-! ## The plain form -/

/-- Rounding keeps the sign. -/
theorem negative_toBinary64 (d : Decimal) : d.toBinary64.negative = d.negative := by
  unfold toBinary64
  dsimp only
  split_ifs
  · rfl
  · rfl
  · rfl
  · split <;> exact negative_ofUnits _ _ _

/-- A whole number is rounded to itself. -/
theorem toBinary64_wholePart {x : Binary64} (hint : x.isIntegral = true)
    (hne : x.isZero = false) : toBinary64 ⟨x.negative, x.wholePart, 0⟩ = x := by
  have hfin := isFinite_of_isIntegral hint
  have hwhole := (units_of_isIntegral hint).symm
  have hc : x.wholePart ≠ 0 := by
    intro hzero
    rw [hzero, Nat.zero_mul] at hwhole
    exact (units_pos hfin hne).ne hwhole
  have hsize : (digits x.wholePart).length + 0 ≤ 310 := by
    rw [Nat.add_zero, length_digits_le_iff (by decide)]
    have hgreat : 2 ^ (53 + 2045 : Nat) ≤ 10 ^ (310 : Nat) * unitsPerOne := by decide +kernel
    generalize 10 ^ (310 : Nat) = q at hgreat ⊢
    have hlt := lt_of_lt_of_le (units_lt x le_rfl) hgreat
    rw [← hwhole] at hlt
    exact Nat.lt_of_mul_lt_mul_right hlt
  have hround := @toBinary64_ofNat x.negative x.wholePart 0 hc hsize
  rw [Nat.pow_zero, Nat.mul_one, hwhole, ← Nat.mul_one x.units] at hround
  exact hround.trans (ofUnits_units hfin (by decide))

end Decimal

/-- The number itself, where negative zero counts as zero. -/
def Binary64.dropZeroSign (x : Binary64) : Binary64 := if x.isZero then .zero false else x

namespace Decimal

/-- **Printed numbers read back.** The plain form of a finite number is a sign and a plain text,
and the text read with the sign is the number, negative zero counting as zero. -/
theorem exists_plain_plainChars {x : Binary64} (hfin : x.isFinite = true) :
    ∃ s, Plain s ∧ x.plainChars = signChars x.dropZeroSign.negative ++ s ∧
      ((ofPlain s).withSign x.dropZeroSign.negative).toBinary64 = x.dropZeroSign := by
  have hchars : x.plainChars = if x.isZero then ['0']
      else if x.isIntegral then signChars x.negative ++ digits x.wholePart
      else (shortest .up x).positional := by
    cases x with
    | nan s p h => cases hfin
    | infinite s => cases hfin
    | finite s m e h => rfl
  rw [hchars, Binary64.dropZeroSign]
  cases hzero : x.isZero with
  | true => exact ⟨['0'], plain_digit (by decide), rfl, rfl⟩
  | false =>
      cases hint : x.isIntegral with
      | true =>
          have hdigits := isDigit_digits x.wholePart
          refine ⟨digits x.wholePart, plain_digits hdigits Nat.toDigits_ne_nil, rfl, ?_⟩
          rw [ofPlain_digits hdigits, ofDigits_digits]
          exact toBinary64_wholePart hint hzero
      | false =>
          have hread := toBinary64_shortest .up hfin hzero
          have hsign : (shortest .up x).negative = x.negative := by
            rw [← negative_toBinary64, hread]
          obtain ⟨s, hplain, hs, hvalue⟩ := exists_plain_positional (shortest .up x)
          rw [hsign] at hs hvalue
          exact ⟨s, hplain, hs, hvalue.trans hread⟩

end Decimal

end Dashboard
