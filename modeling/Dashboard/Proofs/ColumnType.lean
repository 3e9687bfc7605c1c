import Dashboard.ColumnType

/-!
# ColumnType · what a number column holds

A column is inferred to hold numbers if each of its cells that is not blank is one or reads as one.
Here the sample is the whole table, so nothing is missed.

* **`Cell.isSpace`** are the texts of white space. They are not blank, and they read as zero.
* **`ColumnType.isNumeric_of_infer`**: what inference says of a number column.
-/

namespace Dashboard

namespace Cell

variable {cell : Cell}

/-- Whether the cell is a text of white space only. -/
def isSpace : Cell → Bool
  | .text s => (Text.trim s.toList).isEmpty
  | _ => false

/-- White space reads as zero. -/
theorem toNumber_of_isSpace (h : cell.isSpace = true) : cell.toNumber = .zero false := by
  cases cell with
  | text s =>
      have htrim : (Text.trim s.toList).isEmpty = true := h
      rw [toNumber, Numeral.strict, Numeral.strictChars, if_pos htrim]
  | null => cases h
  | bool b => cases h
  | number x => cases h

/-- A numeric cell reads as a number. -/
theorem isNaN_toNumber (h : cell.isNumeric = true) : cell.toNumber.isNaN = false := by
  cases cell with
  | null => cases h
  | bool b => cases h
  | number x => exact (Bool.not_eq_true' _).mp h
  | text s => exact (Bool.not_eq_true' _).mp h

/-- A cell that counts as a number is sorted by its number, unless it is white space. -/
theorem sortNumber?_of_isNumeric (h : cell.isNumeric = true) :
    cell.sortNumber? = if cell.isSpace then none else some cell.toNumber := by
  cases cell with
  | null => cases h
  | bool b => cases h
  | number x => rfl
  | text s =>
      have hnan : (Numeral.strict s).isNaN = false := isNaN_toNumber h
      rw [sortNumber?, hnan]
      rfl

end Cell

namespace ColumnType

variable {dataset : Dataset} {sample : Nat} {field : String} {row : Row} {cells : List Cell}

/-- A column of numbers has cells, and all of them are numeric. -/
theorem classify_eq_number (h : classify cells = .number) :
    cells ≠ [] ∧ ∀ cell ∈ cells, cell.isNumeric = true := by
  unfold classify at h
  split at h
  · cases h
  · rename_i hne
    split at h
    · rename_i hall
      exact ⟨fun hnil => hne (List.isEmpty_iff.2 hnil), List.all_eq_true.1 hall⟩
    · split at h <;> cases h

/-- In a number column there are cells that are not blank, and all of these count as numbers. -/
theorem isNumeric_of_infer (hsample : dataset.length ≤ sample)
    (h : (field, .number) ∈ infer dataset sample) :
    filledCells dataset field ≠ [] ∧
      ∀ cell ∈ filledCells dataset field, cell.isNumeric = true := by
  rw [infer, List.take_of_length_le hsample] at h
  obtain ⟨name, -, heq⟩ := List.mem_map.1 h
  obtain ⟨rfl, hclass⟩ := Prod.mk.inj heq
  exact classify_eq_number hclass

/-- The cells of a number column are blank or count as numbers. -/
theorem isBlank_or_isNumeric (hsample : dataset.length ≤ sample)
    (h : (field, .number) ∈ infer dataset sample) (hrow : row ∈ dataset) :
    (row.cell field).isBlank = true ∨ (row.cell field).isNumeric = true := by
  cases hblank : (row.cell field).isBlank with
  | true => exact .inl rfl
  | false =>
      refine .inr ((isNumeric_of_infer hsample h).2 _ ?_)
      exact List.mem_filter.2 ⟨List.mem_map_of_mem hrow, by rw [hblank]; rfl⟩

end ColumnType

end Dashboard
