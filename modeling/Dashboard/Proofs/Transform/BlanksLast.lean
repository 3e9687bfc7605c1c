import Dashboard.Proofs.Query.SortedRows
import Dashboard.Transform.Step

/-!
# Transform.BlanksLast · sorting rows that lack a value

A pipeline sorts by a column in which some rows have no value. These rows are not compared with the
others: they stand at the end, whichever way the others are sorted.

* **`Row.LacksValue`** says what counts as no value; **`Dataset.filledIn`** and
  **`Dataset.blankIn`** are the rows with a value in a column and those without one.
* **`sort_eq_append`**: the sorted table is the filled rows, sorted, and then the blank ones.
* **`Step.run?_sort`**: what the step returns, and that running it again changes nothing.
-/

namespace Dashboard

/-- Whether a row has no value in a column: the cell is null or the empty text, or there is none. -/
def Row.LacksValue (row : Row) (column : String) : Prop :=
  row.get? column = none ∨ row.get? column = some .null ∨ row.get? column = some (.text "")

instance (row : Row) (column : String) : Decidable (row.LacksValue column) :=
  inferInstanceAs (Decidable (_ ∨ _ ∨ _))

/-- The rows with a value in a column, in order. -/
def Dataset.filledIn (dataset : Dataset) (column : String) : Dataset :=
  dataset.filter fun row => ¬row.LacksValue column

/-- The rows without a value in a column, in order. -/
def Dataset.blankIn (dataset : Dataset) (column : String) : Dataset :=
  dataset.filter fun row => row.LacksValue column

section sorting

variable {a b : Row} {column : String} {order : SortOrder} {dataset : Dataset}

/-- A cell is blank exactly if the row lacks a value. -/
theorem isBlank_cell_eq (row : Row) (column : String) :
    (row.cell column).isBlank = decide (row.LacksValue column) := by
  rw [Bool.eq_iff_iff, decide_eq_true_iff]
  unfold Row.cell Row.LacksValue
  cases row.get? column with
  | none => simp [Cell.isBlank]
  | some cell => cases cell <;> simp [Cell.isBlank]

/-! ## The comparison -/

/-- Rows with values are compared by these. -/
theorem compareBlanksLast_of_filled (ha : ¬a.LacksValue column) (hb : ¬b.LacksValue column) :
    compareBlanksLast order column a b = compareBy order column a b := by
  simp only [compareBlanksLast, isBlank_cell_eq, ha, hb, decide_false]

/-- Rows without a value are tied. -/
theorem compareBlanksLast_of_blank (ha : a.LacksValue column) (hb : b.LacksValue column) :
    compareBlanksLast order column a b = .eq := by
  simp only [compareBlanksLast, isBlank_cell_eq, ha, hb, decide_true]

/-- No row with a value stands behind one without. -/
theorem filled_of_isLE (h : (compareBlanksLast order column a b).isLE = true)
    (hb : ¬b.LacksValue column) : ¬a.LacksValue column := by
  intro ha
  simp only [compareBlanksLast, isBlank_cell_eq, ha, hb, decide_true, decide_false] at h
  cases h

/-! ## The sorted table -/

/-- Where all rows have a value, the blanks do not matter. -/
theorem sortWith_filledIn (column : String) (order : SortOrder) (dataset : Dataset) :
    sortWith (compareBlanksLast order column) (dataset.filledIn column) =
      sortWith (compareBy order column) (dataset.filledIn column) := by
  have hfilled : ∀ row ∈ dataset.filledIn column, ¬row.LacksValue column := fun row hrow =>
    of_decide_eq_true (List.mem_filter.1 hrow).2
  exact mergeSort_congr fun a ha b hb => compareBlanksLast_of_filled (hfilled a ha) (hfilled b hb)

/-- The rows with a value are sorted by it. -/
theorem filledIn_sort (column : String) (order : SortOrder) (dataset : Dataset) :
    (TableChange.apply (.sort column order) dataset).filledIn column =
      sortWith (compareBy order column) (dataset.filledIn column) := by
  rw [← sortWith_filledIn]
  exact filter_mergeSort _ dataset

/-- A sort by a column is stable. -/
theorem sortedStably_sort (column : String) (order : SortOrder) (dataset : Dataset) :
    SortedStably (compareBlanksLast order column) dataset
      (TableChange.apply (.sort column order) dataset) := sortedStably_sortWith _ dataset

/-- The rows without a value stay in their order. -/
theorem blankIn_sort (column : String) (order : SortOrder) (dataset : Dataset) :
    (TableChange.apply (.sort column order) dataset).blankIn column = dataset.blankIn column :=
  (sortedStably_sort column order dataset).filter_eq fun _ _ ha hb =>
    compareBlanksLast_of_blank (of_decide_eq_true ha) (of_decide_eq_true hb)

/-- The sorted table is the filled rows, sorted, and then the blank ones as they came. -/
theorem sort_eq_append (column : String) (order : SortOrder) (dataset : Dataset) :
    TableChange.apply (.sort column order) dataset =
      sortWith (compareBy order column) (dataset.filledIn column) ++ dataset.blankIn column := by
  have hfront : (TableChange.apply (.sort column order) dataset).Pairwise fun a b =>
      decide (¬b.LacksValue column) = true → decide (¬a.LacksValue column) = true := by
    apply (sortedStably_sort column order dataset).ordered.imp
    intro a b hle hb
    exact decide_eq_true (filled_of_isLE hle (of_decide_eq_true hb))
  have hsplit := eq_filter_append_filter hfront
  have hback : ((TableChange.apply (.sort column order) dataset).filter fun row =>
      !decide (¬row.LacksValue column)) =
      (TableChange.apply (.sort column order) dataset).blankIn column :=
    List.filter_congr fun row _ => by rw [decide_not, Bool.not_not]
  rw [hback, blankIn_sort] at hsplit
  rw [← filledIn_sort]
  exact hsplit

/-- Sorting once more changes nothing. -/
theorem sort_sort (column : String) (order : SortOrder) (dataset : Dataset) :
    TableChange.apply (.sort column order) (TableChange.apply (.sort column order) dataset) =
      TableChange.apply (.sort column order) dataset :=
  List.mergeSort_of_pairwise (sortedStably_sort column order dataset).ordered

/-- **What the sort step returns.** The step succeeds. First come the rows with a value in the
column: they are the one arrangement of these rows, in the order of their cells upwards or
downwards, equal ones as they came. Then come the rows without a value as they came, whatever the
direction. Running the step on its own result changes nothing. -/
theorem Step.run?_sort (column : String) (order : SortOrder) (dataset : Dataset) :
    ∃ front : Dataset,
      (∀ rows : Dataset, rows = front ↔ Arranged order column (dataset.filledIn column) rows) ∧
      run? (.table (.sort column order)) dataset = some (front ++ dataset.blankIn column) ∧
      run? (.table (.sort column order)) (front ++ dataset.blankIn column) =
        some (front ++ dataset.blankIn column) := by
  have happly := sort_eq_append column order dataset
  refine ⟨sortWith (compareBy order column) (dataset.filledIn column), ?_, ?_, ?_⟩
  · intro rows
    rw [arranged_iff_sortedStably]
    have hsorted := sortedStably_sortWith (compareBy order column) (dataset.filledIn column)
    constructor
    · rintro rfl
      exact hsorted
    · intro h
      exact h.eq hsorted
  · exact congrArg some happly
  · rw [← happly]
    exact congrArg some (sort_sort column order dataset)

end sorting

end Dashboard
