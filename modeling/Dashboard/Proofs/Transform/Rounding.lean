import Dashboard.Proofs.Binary64.Scaling
import Dashboard.Proofs.Transform.NumberColumn

/-!
# Transform.Rounding · whole numbers that are rounded to decimals

A whole number has no decimals to round. The step scales it by a power of ten and divides it back,
and both results are rounded to doubles. So a whole number stays as it is while the scaled one is
exact, and for large numbers it depends on how far the scaled one is off.

* **`Cell.Holds`**: the number of a cell, as itself or at the head of its text.
* **`Cell.KeepsWhole`**: nothing is scaled, or the scaled number is out of range, or it is off by
  less than half of what the next number would add to it.
* **`Cell.roundNumber_eq_self_iff`**: exactly then a whole number stays as it is, and
  **`exists_run?_round_whole`** says so of the step.
-/

namespace Dashboard

namespace Cell

variable {cell : Cell} {x : Binary64} {decimals : Nat}

/-- The cell holds a number, as itself or at the head of its text. -/
def Holds (cell : Cell) (x : Binary64) : Prop :=
  cell = .number x ∨ ∃ s, cell = .text s ∧ Numeral.leading? s = some x

/-- A cell is rounded by the number that it holds. -/
theorem round_of_holds (h : cell.Holds x) (decimals : Nat) :
    cell.round decimals = .number (roundNumber decimals x) := by
  rcases h with rfl | ⟨s, rfl, hread⟩
  · rfl
  · rw [round, readNumber, hread]

/-- A whole number is not lost in scaling: nothing is scaled, or the scaled number is out of range,
or it is off by less than half of what the next number would add to it. -/
def KeepsWhole (decimals : Nat) (x : Binary64) : Prop :=
  decimals ≤ maxDecimals → (x * .ofNat (10 ^ decimals)).isFinite = true →
    x.ScalesBack (10 ^ decimals)

/-- The powers of ten that scale are below `2 ^ 53`. -/
theorem ten_pow_lt (h : decimals ≤ maxDecimals) : 10 ^ decimals < 2 ^ (53 : Nat) :=
  lt_of_le_of_lt (Nat.pow_le_pow_right (by decide) h) (by decide)

/-- What the rounding of a whole number comes down to: its product is whole already, and the
quotient stays in range. -/
theorem roundNumber_of_isIntegral (hx : x.isIntegral = true) : roundNumber decimals x =
    if decimals ≤ maxDecimals ∧ (x * .ofNat (10 ^ decimals)).isFinite = true then
      x * .ofNat (10 ^ decimals) / .ofNat (10 ^ decimals)
    else x := by
  have hfin := Binary64.isFinite_of_isIntegral hx
  by_cases hle : decimals ≤ maxDecimals
  · have hlt := ten_pow_lt hle
    have hpos : 0 < 10 ^ decimals := Nat.pow_pos (by decide)
    have hguard : (!x.isFinite || decide (decimals > maxDecimals)) = false := by
      rw [hfin, decide_eq_false (Nat.not_lt.2 hle)]
      rfl
    rw [roundNumber, hguard, if_neg Bool.false_ne_true]
    dsimp only
    cases hproduct : (x * .ofNat (10 ^ decimals)).isFinite with
    | true =>
        have hwhole := Binary64.isIntegral_mul_ofNat hx hlt.le hproduct
        have hquotient := Binary64.isFinite_div_ofNat hproduct hpos hlt.le
        rw [Binary64.roundAway_of_isIntegral hwhole, hquotient, if_pos rfl, if_pos ⟨hle, rfl⟩]
    | false =>
        have hround (s : Bool) : (Binary64.infinite s).roundAway = .infinite s := rfl
        rw [Binary64.eq_infinite_of_mul_ofNat hfin hlt.le hproduct, hround,
          Binary64.isFinite_infinite_div, if_neg Bool.false_ne_true,
          if_neg fun h => Bool.false_ne_true h.2]
  · have hguard : (!x.isFinite || decide (decimals > maxDecimals)) = true := by
      rw [decide_eq_true (Nat.not_le.1 hle), Bool.or_true]
    rw [roundNumber, hguard, if_pos rfl, if_neg fun h => hle h.1]

/-- **Which whole numbers are kept.** -/
theorem roundNumber_eq_self_iff (hx : x.isIntegral = true) :
    roundNumber decimals x = x ↔ KeepsWhole decimals x := by
  have hfin := Binary64.isFinite_of_isIntegral hx
  rw [roundNumber_of_isIntegral hx, KeepsWhole]
  split
  · rename_i h
    rw [Binary64.mul_div_eq_iff hfin (Nat.pow_pos (by decide)) (ten_pow_lt h.1) h.2]
    exact ⟨fun hback _ _ => hback, fun hback => hback h.1 h.2⟩
  · rename_i h
    exact ⟨fun _ hle hproduct => absurd ⟨hle, hproduct⟩ h, fun _ => rfl⟩

/-- Without decimals, with more than fifteen, and while the scaled number is at most `2 ^ 53`, every
whole number is kept. -/
theorem keepsWhole_of_le (hx : x.isIntegral = true)
    (h : decimals = 0 ∨ maxDecimals < decimals ∨ x.wholePart * 10 ^ decimals ≤ 2 ^ (53 : Nat)) :
    KeepsWhole decimals x := by
  intro hle hproduct
  have hfin := Binary64.isFinite_of_isIntegral hx
  rcases h with rfl | hgt | hexact
  · apply Binary64.scalesBack_of_exact hfin Nat.one_pos
    rw [Binary64.mul_ofNat hfin (by decide), Binary64.ofUnits_units hfin Nat.one_pos, Nat.mul_one]
  · exact absurd hle (Nat.not_le.2 hgt)
  · exact Binary64.scalesBack_of_wholePart_le hx (Nat.pow_pos (by decide)) (ten_pow_lt hle).le
      hexact

end Cell

open Cell (KeepsWhole)

/-- **What rounding does to whole numbers.** On every dataset the step succeeds. It makes of a cell
that holds a whole number that number exactly if the scaled number is off by less than half of what
the next number would add, or out of range. This is so without decimals, with more than fifteen, and
while the scaled number is at most `2 ^ 53`. -/
theorem exists_run?_round_whole (dataset : Dataset) (column : String) (decimals : Nat) :
    (∃ result, (Step.cells column (.round decimals)).run? dataset = some result ∧
      List.Forall₂ (fun row changed => ∀ x : Binary64, x.isIntegral = true →
        (row.cell column).Holds x →
          (changed.cell column = .number x ↔ KeepsWhole decimals x)) dataset result) ∧
      ∀ x : Binary64, x.isIntegral = true → (decimals = 0 ∨ Cell.maxDecimals < decimals ∨
        x.wholePart * 10 ^ decimals ≤ 2 ^ (53 : Nat)) → KeepsWhole decimals x := by
  refine ⟨⟨_, rfl, ?_⟩, fun x hx => Cell.keepsWhole_of_le hx⟩
  rw [List.forall₂_map_right_iff, List.forall₂_same]
  intro row _ x hx hholds
  rw [row.cell_modify column rfl, Cell.round_of_holds hholds, Cell.number.injEq,
    Cell.roundNumber_eq_self_iff hx]

/-- With nine decimals the scaled number is just below `2 ^ 53`. -/
theorem exists_run?_round_tons :
    (Binary64.ofNat 9007199).isIntegral = true ∧
      (Cell.text " 9007199 tons").Holds (.ofNat 9007199) ∧
      ∃ changed : Row, (Step.cells "load" (.round 9)).run?
          [.ofList [("load", .text " 9007199 tons")]] = some [changed] ∧
        changed.cell "load" = .number (.ofNat 9007199) := by
  have hwhole : (Binary64.ofNat 9007199).isIntegral = true := by decide +kernel
  have hholds : (Cell.text " 9007199 tons").Holds (.ofNat 9007199) :=
    .inr ⟨_, rfl, by decide +kernel⟩
  obtain ⟨⟨result, hrun, hrows⟩, hkept⟩ :=
    exists_run?_round_whole [.ofList [("load", .text " 9007199 tons")]] "load" 9
  cases hrows with
  | cons hrow hnil =>
      cases hnil
      exact ⟨hwhole, hholds, _, hrun,
        (hrow _ hwhole hholds).2 (hkept _ hwhole (.inr (.inr (by decide +kernel))))⟩

/-- Fifteen decimals make of a whole number of six digits one that is not whole. -/
theorem not_round_295149 : (Binary64.ofNat 295149).isIntegral = true ∧
    (Step.cells "a" (.round 15)).run?
        [.ofList [("a", .number (.ofNat 295149))], .ofList [("a", .text "295149")]] =
      some [.ofList [("a", .number (Numeral.strict "295148.99999999994"))],
        .ofList [("a", .number (Numeral.strict "295148.99999999994"))]] ∧
    Numeral.strict "295148.99999999994" ≠ .ofNat 295149 := by
  refine ⟨?_, ?_, ?_⟩ <;> decide +kernel

end Dashboard
