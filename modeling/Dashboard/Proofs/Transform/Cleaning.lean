import Dashboard.Proofs.Query.PrintedNumbers
import Dashboard.Proofs.Transform.DecimalText
import Dashboard.Proofs.Transform.Failure

/-!
# Transform.Cleaning · numbers that are cleaned again

Two steps make numbers of dirty texts. Run again they find numbers, or the texts in which they found
none. A number stays as it is: one step does not look at it, the other one prints it, drops marks of
currencies and reads it back, which loses nothing but the sign of a zero.

* **`Cell.readNumber_readNumber`**, **`Cell.removeCurrency_removeCurrency`**: the second time.
* **`Cell.removeCurrency_number`**: what becomes of a number, whatever number it is.
* **`cleaning_stable`** puts these together for the steps.
-/

namespace Dashboard

/-! ## Printed numbers -/

/-- A printed number reads as a decimal. -/
theorem Numeral.isDecimal_plainText {x : Binary64} (h : x.isNaN = false) :
    IsDecimal x.plainText := by
  have hchars : x.plainText.toList = x.plainChars := String.toList_ofList
  refine ⟨?_, ?_, ?_⟩
  · rw [hchars]
    exact List.isEmpty_eq_false_iff.1 (isEmpty_trim_plainChars h)
  · rw [hchars]
    exact isHexadecimal_plainChars h
  · rw [strict_plainText h, Binary64.isNaN_dropZeroSign, h]

namespace Cell

/-! ## Reading numbers -/

/-- A cell that was read as a number is one. -/
theorem readNumber_readNumber (cell : Cell) : cell.readNumber.readNumber = cell.readNumber := by
  cases cell with
  | null | bool | number => rfl
  | text s =>
      cases hread : Numeral.leading? s with
      | some x =>
          have hnumber : (Cell.text s).readNumber = .number x := by rw [readNumber, hread]
          rw [hnumber]
          rfl
      | none =>
          have hkept : (Cell.text s).readNumber = .text s := by rw [readNumber, hread]
          rw [hkept, hkept]

/-! ## Dropping marks of currencies -/

/-- No mark of a currency stands in a printed number, so it is read back. Only a not-a-number is not
read, and stays. -/
theorem removeCurrency_number (x : Binary64) :
    (Cell.number x).removeCurrency = .number x.dropZeroSign := by
  cases hnan : x.isNaN with
  | true =>
      have hunread : Numeral.leadingChars? (stripCurrency "NaN".toList) = none := by decide +kernel
      have hchars : (Cell.number x).chars = "NaN".toList := by
        cases x with
        | nan => rfl
        | infinite | finite => cases hnan
      have hsign : x.dropZeroSign = x := by
        apply Binary64.dropZeroSign_of_ne
        rintro rfl
        cases hnan
      rw [removeCurrency, hchars, hunread, hsign]
      rfl
  | false =>
      have hdecimal := Numeral.isDecimal_plainText hnan
      have hchars : (Cell.number x).chars = x.plainText.toList := rfl
      rw [removeCurrency, hchars, hdecimal.stripCurrency_eq, hdecimal.leadingChars?_trim,
        Numeral.strict_plainText hnan]
      rfl

/-- Dropping marks of currencies makes a number of a cell, or it leaves the cell as it is. -/
theorem removeCurrency_cases (cell : Cell) :
    (∃ x, cell.removeCurrency = .number x) ∨ cell.removeCurrency = cell := by
  unfold removeCurrency
  split
  · rename_i hnull
    cases cell with
    | null => exact .inr rfl
    | bool | number | text => cases hnull
  · split
    · exact .inl ⟨_, rfl⟩
    · exact .inr rfl

/-- Removing currency signs once more changes at most the sign of zero. -/
theorem removeCurrency_removeCurrency (cell : Cell) :
    cell.removeCurrency.removeCurrency = cell.removeCurrency.dropZeroSign := by
  rcases cell.removeCurrency_cases with ⟨x, hnumber⟩ | hkept
  · rw [hnumber, removeCurrency_number, dropZeroSign]
  · rw [hkept, hkept]
    cases cell with
    | null | bool | text => rfl
    | number x =>
        rw [removeCurrency_number] at hkept
        exact hkept.symm

/-- A cell is identical to itself. -/
theorem identical_refl (cell : Cell) : cell.Identical cell := identical_iff.2 rfl

/-- The sign of a zero makes no difference to the value. -/
theorem identical_dropZeroSign (cell : Cell) : cell.dropZeroSign.Identical cell := by
  cases cell with
  | null | bool | text => exact identical_refl _
  | number x =>
      cases hnan : x.isNaN with
      | true => exact .inr ⟨(Binary64.isNaN_dropZeroSign x).trans hnan, hnan⟩
      | false =>
          refine .inl ((Binary64.same_iff_dropZeroSign_eq ?_ hnan).2 ?_)
          · rw [Binary64.isNaN_dropZeroSign, hnan]
          · exact Binary64.dropZeroSign_dropZeroSign x

end Cell

/-! ## Steps -/

section columns

variable {dataset : Dataset} {column : String} {f : Cell → Cell}

/-- A change that makes a related cell of the cell of the column makes a related row. -/
theorem Row.alike_modify {related : Cell → Cell → Prop} (row : Row)
    (hrefl : ∀ cell, related cell cell) (h : ∀ cell ∈ row.get? column, related (f cell) cell) :
    (row.modify column f).Alike related row := by
  unfold Alike modify Fields.modify
  rw [List.forall₂_map_left_iff, List.forall₂_same]
  rintro ⟨name, cell⟩ hfield
  by_cases hname : name = column
  · rw [if_pos hname]
    exact ⟨rfl, h cell (get?_eq_some_iff.2 (hname ▸ hfield))⟩
  · rw [if_neg hname]
    exact ⟨rfl, hrefl cell⟩

/-- The cells of a changed column are what the change makes. -/
theorem forall_cells_of_modify {kept : Cell → Prop} (h : ∀ cell, kept (f cell)) :
    ∀ row ∈ dataset.map fun row => row.modify column f, ∀ cell ∈ row.get? column, kept cell := by
  rw [List.forall_mem_map]
  intro row _ cell hcell
  rw [Row.get?, Row.modify, Fields.get?_modify_self] at hcell
  obtain ⟨old, -, rfl⟩ := Option.mem_map.1 hcell
  exact h old

/-- A change that keeps all cells of a column keeps the rows. -/
theorem map_modify_eq_self (h : ∀ row ∈ dataset, ∀ cell ∈ row.get? column, f cell = cell) :
    (dataset.map fun row => row.modify column f) = dataset := by
  rw [List.map_congr_left fun row hrow => row.modify_eq_self (h row hrow), List.map_id']

/-- A change to related cells of a column gives rows that are alike. -/
theorem alike_map_modify {related : Cell → Cell → Prop} (hrefl : ∀ cell, related cell cell)
    (h : ∀ row ∈ dataset, ∀ cell ∈ row.get? column, related (f cell) cell) :
    List.Forall₂ (Row.Alike related) (dataset.map fun row => row.modify column f) dataset := by
  rw [List.forall₂_map_left_iff, List.forall₂_same]
  exact fun row hrow => row.alike_modify hrefl (h row hrow)

end columns

/-- **Numbers can be cleaned again.** Reading the number of a cell changes nothing the second time.
Dropping marks of currencies does not either, for cells compared by value, not-a-number with itself.
It makes of a number, of whatever size, infinite or not-a-number, the same number up to the sign of
a zero. So on every dataset both steps succeed and leave their own results as they are, and they do
so already the first time with a column of numbers. -/
theorem cleaning_stable (dataset : Dataset) (column : String) :
    (∀ cell : Cell, cell.readNumber.readNumber = cell.readNumber ∧
        cell.removeCurrency.removeCurrency.Identical cell.removeCurrency) ∧
      (∀ x : Binary64, (Cell.number x).removeCurrency = .number x.dropZeroSign) ∧
      (∃ once, (Step.cells column .toNumber).run? dataset = some once ∧
        (Step.cells column .toNumber).run? once = some once) ∧
      (∃ once twice, (Step.cells column .removeCurrency).run? dataset = some once ∧
        (Step.cells column .removeCurrency).run? once = some twice ∧
        List.Forall₂ (Row.Alike Cell.Identical) twice once) ∧
      ((∀ row ∈ dataset, ∀ cell ∈ row.get? column, ∃ x, cell = .number x) →
        (Step.cells column .toNumber).run? dataset = some dataset ∧
        ∃ result, (Step.cells column .removeCurrency).run? dataset = some result ∧
          List.Forall₂ (Row.Alike Cell.Identical) result dataset) := by
  have hcurrency (cell : Cell) :
      cell.removeCurrency.removeCurrency.Identical cell.removeCurrency := by
    rw [Cell.removeCurrency_removeCurrency]
    exact Cell.identical_dropZeroSign _
  have hread := @Step.run?_cells .toNumber _ rfl column
  have hdrop := @Step.run?_cells .removeCurrency _ rfl column
  refine ⟨fun cell => ⟨cell.readNumber_readNumber, hcurrency cell⟩, Cell.removeCurrency_number,
    ⟨_, hread dataset, ?_⟩, ⟨_, _, hdrop dataset, hdrop _, ?_⟩,
    fun hnumbers => ⟨?_, _, hdrop dataset, ?_⟩⟩
  · rw [hread, map_modify_eq_self (forall_cells_of_modify Cell.readNumber_readNumber)]
  · exact alike_map_modify Cell.identical_refl (forall_cells_of_modify hcurrency)
  · rw [hread, map_modify_eq_self]
    intro row hrow cell hcell
    obtain ⟨x, rfl⟩ := hnumbers row hrow cell hcell
    rfl
  · refine alike_map_modify Cell.identical_refl fun row hrow cell hcell => ?_
    obtain ⟨x, rfl⟩ := hnumbers row hrow cell hcell
    rw [Cell.removeCurrency_number]
    exact Cell.identical_dropZeroSign (.number x)

/-- Negative zero, the number next to zero, minus infinity, not-a-number, and no cell. -/
def extremeLoads : Dataset :=
  [.ofList [("load", .number (.zero true))], .ofList [("load", .number (.ofUnits false 1 1))],
    .ofList [("load", .number (.infinite true))], .ofList [("load", .number .quietNaN)],
    .ofList [("unit", .text "t")]]

/-- Only the sign of the zero is lost. -/
theorem cleaning_stable_extremeLoads :
    (∀ row ∈ extremeLoads, ∀ cell ∈ row.get? "load", ∃ x, cell = .number x) ∧
      (Step.cells "load" .toNumber).run? extremeLoads = some extremeLoads ∧
      ∃ result, (Step.cells "load" .removeCurrency).run? extremeLoads = some result ∧
        List.Forall₂ (Row.Alike Cell.Identical) result extremeLoads := by
  have hnumbers : ∀ row ∈ extremeLoads, ∀ cell ∈ row.get? "load", ∃ x, cell = .number x := by
    intro row hrow cell hcell
    simp only [extremeLoads, List.mem_cons, List.not_mem_nil, or_false] at hrow
    rcases hrow with rfl | rfl | rfl | rfl | rfl
    all_goals cases hcell
    all_goals exact ⟨_, rfl⟩
  exact ⟨hnumbers, (cleaning_stable extremeLoads "load").2.2.2.2 hnumbers⟩

end Dashboard
