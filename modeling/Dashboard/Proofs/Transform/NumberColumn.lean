import Dashboard.Proofs.ColumnType
import Dashboard.Proofs.Formula.Segments
import Dashboard.Proofs.Numeral
import Dashboard.Proofs.Query.Comparison
import Dashboard.Proofs.Row.Modify
import Dashboard.Query.Aggregation
import Dashboard.Query.Condition
import Dashboard.Transform.Step
import Mathlib.Data.List.Forall2

/-!
# Transform.NumberColumn · reading the numbers of a number column

A column is inferred to hold numbers by the strict reading, and a step makes numbers of its texts by
the lenient one. The two agree on all cells of such a column, but for hexadecimal literals, of which
the step takes the zero before the mark.

* **`Cell.toNumber_readNumber`**: the number of a cell after the step.
* **`SameNumbers`**: two tables that agree outside a column and, as numbers, in it. Aggregations,
  comparisons and formulas then see no difference.
* **`exists_run?_toNumber`**: the step keeps the numbers of a number column exactly if each
  hexadecimal literal in it writes zero.
-/

namespace Dashboard

/-! ## Cells -/

namespace Cell

variable {cell a b : Cell}

/-- Whether the cell is a text that starts like a hexadecimal literal. -/
def isHexadecimal : Cell → Bool
  | .text s => Numeral.isHexadecimal s.toList
  | _ => false

/-- A numeric text becomes its number, unless it is white space or hexadecimal. -/
theorem readNumber_text {s : String} (h : (Cell.text s).isNumeric = true) :
    (Cell.text s).readNumber =
      if (Cell.text s).isSpace then .text s
      else if (Cell.text s).isHexadecimal then .number (.zero false)
      else .number (Cell.text s).toNumber := by
  have hstrict : (Numeral.strictChars s.toList).isNaN = false := isNaN_toNumber h
  rw [readNumber, Numeral.leading?, Numeral.leadingChars?_eq hstrict, isSpace, isHexadecimal]
  cases (Text.trim s.toList).isEmpty with
  | true => rfl
  | false => cases Numeral.isHexadecimal s.toList <;> rfl

/-- The cell of a number column after the step: it stays, or it becomes the zero of a hexadecimal
literal, or it becomes the number by which it was sorted before. -/
theorem readNumber_cases (h : cell.isBlank = true ∨ cell.isNumeric = true) :
    (cell.readNumber = cell ∧ cell.isHexadecimal = false) ∨
      (cell.isHexadecimal = true ∧ cell.readNumber = .number (.zero false) ∧
        cell.sortNumber? = some cell.toNumber) ∨
      (cell.isHexadecimal = false ∧ cell.readNumber = .number cell.toNumber ∧
        cell.sortNumber? = some cell.toNumber) := by
  cases cell with
  | null => exact .inl ⟨rfl, rfl⟩
  | bool b => exact .inl ⟨rfl, rfl⟩
  | number x => exact .inl ⟨rfl, rfl⟩
  | text s =>
      have hnumeric : (Cell.text s).isNumeric = true := by
        rcases h with hblank | hnumeric
        · obtain rfl : s = "" := String.isEmpty_iff.1 hblank
          decide
        · exact hnumeric
      rw [readNumber_text hnumeric, sortNumber?_of_isNumeric hnumeric]
      cases hspace : (Cell.text s).isSpace with
      | true =>
          refine .inl ⟨rfl, ?_⟩
          have htrim : Text.trim s.toList = [] := List.isEmpty_iff.1 hspace
          rw [isHexadecimal, Numeral.isHexadecimal, htrim]
          rfl
      | false =>
          cases hhex : (Cell.text s).isHexadecimal with
          | true => exact .inr (.inl ⟨rfl, rfl, rfl⟩)
          | false => exact .inr (.inr ⟨rfl, rfl, rfl⟩)

/-- A number that is read has the value of the cell, unless that is hexadecimal. -/
theorem toNumber_readNumber (h : cell.isBlank = true ∨ cell.isNumeric = true) :
    cell.readNumber.toNumber = if cell.isHexadecimal then .zero false else cell.toNumber := by
  rcases readNumber_cases h with ⟨hread, hhex⟩ | ⟨hhex, hread, -⟩ | ⟨hhex, hread, -⟩
  · rw [hread, hhex]
    rfl
  · rw [hread, hhex]
    rfl
  · rw [hread, hhex]
    rfl

/-- The cell has the same number to sort by as another one, or it has none and is the same. -/
def SortsLike (cell other : Cell) : Prop :=
  cell.sortNumber? = other.sortNumber? ∧ (other.sortNumber? = none → cell = other)

/-- Cells that sort like others are ordered like them. -/
theorem SortsLike.order_eq {a' b' : Cell} (ha : a'.SortsLike a) (hb : b'.SortsLike b) :
    a'.order b' = a.order b := by
  rw [order_eq_keyedFirst]
  unfold keyedFirst
  rw [ha.1, hb.1]
  cases hx : a.sortNumber? with
  | some x => cases b.sortNumber? <;> rfl
  | none =>
      cases hy : b.sortNumber? with
      | some y => rfl
      | none => rw [ha.2 hx, hb.2 hy]

/-- A cell of a number column is sorted as before, unless it is a hexadecimal literal. -/
theorem sortsLike_readNumber (h : cell.isBlank = true ∨ cell.isNumeric = true)
    (hzero : cell.isHexadecimal = true → cell.toNumber = .zero false) :
    cell.readNumber.SortsLike cell := by
  rcases readNumber_cases h with ⟨hread, -⟩ | ⟨hhex, hread, hsort⟩ | ⟨-, hread, hsort⟩
  · rw [hread]
    exact ⟨rfl, fun _ => rfl⟩
  · rw [hread, SortsLike, hsort, hzero hhex]
    exact ⟨rfl, nofun⟩
  · rw [hread, SortsLike, hsort]
    exact ⟨rfl, nofun⟩

end Cell

/-! ## Tables -/

section tables

variable {dataset : Dataset} {sample : Nat} {column : String} {row changed : Row}
  {convert : Row → Row}

/-- The rows have the same fields in the same order, the same cells outside a column, and the same
number in it. -/
structure Row.SameNumber (column : String) (row changed : Row) : Prop where
  keys_eq : changed.keys = row.keys
  outside : row.SameOutside [column] changed
  toNumber_eq : (changed.cell column).toNumber = (row.cell column).toNumber

/-- Outside of the column the cells are the same. -/
theorem Row.SameNumber.cell_eq (h : row.SameNumber column changed) {name : String}
    (hne : name ≠ column) : changed.cell name = row.cell name := by
  have hget := h.outside.get?_eq name (by simpa using hne)
  rw [cell, cell, hget]

/-- In no column do the rows have different numbers. -/
theorem Row.SameNumber.toNumber_cell (h : row.SameNumber column changed) (name : String) :
    (changed.cell name).toNumber = (row.cell name).toNumber := by
  by_cases hname : name = column
  · rw [hname]
    exact h.toNumber_eq
  · rw [h.cell_eq hname]

/-- The value of a name is its cell as a number, or zero. -/
theorem valueIn_eq (row : Row) (name : String) :
    Formula.valueIn row name = (row.cell name).toNumberOrZero := by
  unfold Formula.valueIn Row.cell
  cases row.get? name <;> rfl

/-- A formula has the same value, or the same error. -/
theorem Row.SameNumber.evaluateRow_eq (h : row.SameNumber column changed) (formula : String) :
    Formula.evaluateRow formula changed = Formula.evaluateRow formula row := by
  have hvalue : ∀ name, Formula.valueIn changed name = Formula.valueIn row name := by
    intro name
    rw [valueIn_eq, valueIn_eq, Cell.toNumberOrZero, Cell.toNumberOrZero, h.toNumber_cell]
  have hsegment : Formula.Segment.substitute changed = Formula.Segment.substitute row := by
    funext segment
    cases segment with
    | mark c => rfl
    | reference name => rw [Formula.Segment.substitute, Formula.Segment.substitute, hvalue]
  rw [Formula.evaluateRow, Formula.evaluateRow, Formula.substitute_eq, Formula.substitute_eq,
    hsegment]

/-- The tests that compare with a bound by number. -/
def boundTests : List Operator := [.gt, .lt, .gte, .lte]

/-- A row passes the same comparisons with a bound. -/
theorem Row.SameNumber.accepts_eq (h : row.SameNumber column changed) {condition : Condition}
    (hbound : condition.operator ∈ boundTests) :
    condition.accepts changed = condition.accepts row := by
  have hnumber := h.toNumber_cell condition.field
  simp only [boundTests, List.mem_cons, List.not_mem_nil, or_false] at hbound
  rcases hbound with hop | hop | hop | hop <;>
    rw [Condition.accepts, Condition.accepts, hop] <;>
    simp only [Operator.test, hnumber]

/-- An aggregation of a column by other fields sees only its numbers. -/
theorem aggregate_map (spec : AggregationSpec)
    (h : ∀ row ∈ dataset, row.SameNumber spec.measure (convert row))
    (hdimension : spec.dimension ≠ spec.measure) (hcolor : spec.colorBy ≠ some spec.measure) :
    aggregate spec (dataset.map convert) = aggregate spec dataset := by
  have hkey : ∀ row ∈ dataset, ∀ field, field ≠ spec.measure →
      (convert row).groupKey field = row.groupKey field := by
    intro row hrow field hne
    rw [Row.groupKey, Row.groupKey, (h row hrow).cell_eq hne]
  have hmeasured : ∀ row ∈ dataset,
      (convert row).measured spec.measure = row.measured spec.measure := by
    intro row hrow
    rw [Row.measured, Row.measured, Cell.toNumberOrZero, Cell.toNumberOrZero,
      (h row hrow).toNumber_eq]
  unfold aggregate
  cases hsplit : spec.splitField? with
  | none =>
      have hgroups : groupBy spec.dimension spec.measure (dataset.map convert) =
          groupBy spec.dimension spec.measure dataset := by
        rw [groupBy, groupBy, List.foldl_map]
        apply List.foldl_ext
        intro groups row hrow
        rw [hkey row hrow _ hdimension, hmeasured row hrow]
      simp only [hgroups]
  | some field =>
      have hfield : field ≠ spec.measure := by
        rintro rfl
        exact hcolor (Option.filter_eq_some_iff.1 hsplit).1
      have htexts : distinctTexts field (dataset.map convert) = distinctTexts field dataset := by
        rw [distinctTexts, distinctTexts, List.foldl_map]
        apply List.foldl_ext
        intro texts row hrow
        rw [hkey row hrow _ hfield]
      have hgroups : groupByTwo spec.dimension field spec.measure (dataset.map convert) =
          groupByTwo spec.dimension field spec.measure dataset := by
        rw [groupByTwo, groupByTwo, List.foldl_map]
        apply List.foldl_ext
        intro groups row hrow
        rw [hkey row hrow _ hdimension, hkey row hrow _ hfield, hmeasured row hrow]
      simp only [htexts, hgroups]

/-- The tables agree row by row outside a column, and in it they have the same numbers. So they give
the same aggregations, comparisons and formulas. -/
structure SameNumbers (column : String) (before after : Dataset) : Prop where
  rows : List.Forall₂ (Row.SameNumber column) before after
  aggregations : ∀ spec : AggregationSpec, spec.measure = column → spec.dimension ≠ column →
    spec.colorBy ≠ some column → aggregate spec after = aggregate spec before
  conditions : ∀ condition : Condition, condition.operator ∈ boundTests →
    after.map condition.accepts = before.map condition.accepts
  comparisons : ∀ order, (after.map fun a => after.map (compareBy order column a)) =
    before.map fun a => before.map (compareBy order column a)
  formulas : ∀ formula, after.map (Formula.evaluateRow formula) =
    before.map (Formula.evaluateRow formula)

/-- A change that keeps the number of every row keeps those of the table. -/
theorem sameNumbers_map (h : ∀ row ∈ dataset, row.SameNumber column (convert row))
    (hsorts : ∀ row ∈ dataset, ((convert row).cell column).SortsLike (row.cell column)) :
    SameNumbers column dataset (dataset.map convert) where
  rows := by
    rw [List.forall₂_map_right_iff, List.forall₂_same]
    exact h
  aggregations := by
    rintro spec rfl hdimension hcolor
    exact aggregate_map spec h hdimension hcolor
  conditions := by
    intro condition hbound
    rw [List.map_map]
    refine List.map_congr_left fun row hrow => ?_
    rw [Function.comp_apply, (h row hrow).accepts_eq hbound]
  comparisons := by
    intro order
    rw [List.map_map]
    refine List.map_congr_left fun a ha => ?_
    rw [Function.comp_apply, List.map_map]
    refine List.map_congr_left fun b hb => ?_
    rw [Function.comp_apply, compareBy, compareBy, (hsorts a ha).order_eq (hsorts b hb)]
  formulas := by
    intro formula
    rw [List.map_map]
    refine List.map_congr_left fun row hrow => ?_
    rw [Function.comp_apply, (h row hrow).evaluateRow_eq formula]

/-! ## The step -/

/-- **What reading the numbers of a number column keeps.** The step succeeds and changes the column
only. Each cell keeps its number, but a hexadecimal literal becomes zero. So the tables before and
after have the same numbers exactly if all hexadecimal literals of the column write zero. -/
theorem exists_run?_toNumber (hsample : dataset.length ≤ sample)
    (h : (column, .number) ∈ ColumnType.infer dataset sample) :
    ∃ result, (Step.cells column .toNumber).run? dataset = some result ∧
      List.Forall₂ (fun row changed =>
        changed.keys = row.keys ∧ row.SameOutside [column] changed ∧
          (changed.cell column).toNumber =
            if (row.cell column).isHexadecimal then .zero false else (row.cell column).toNumber)
        dataset result ∧
      (SameNumbers column dataset result ↔
        ∀ row ∈ dataset, (row.cell column).isHexadecimal = true →
          (row.cell column).toNumber = .zero false) := by
  have hcell : ∀ row ∈ dataset, ((row.modify column Cell.readNumber).cell column).toNumber =
      if (row.cell column).isHexadecimal then .zero false else (row.cell column).toNumber := by
    intro row hrow
    rw [row.cell_modify column rfl,
      Cell.toNumber_readNumber (ColumnType.isBlank_or_isNumeric hsample h hrow)]
  refine ⟨dataset.map fun row => row.modify column Cell.readNumber, rfl, ?_, ?_⟩
  · rw [List.forall₂_map_right_iff, List.forall₂_same]
    intro row hrow
    exact ⟨row.keys_modify column _, row.sameOutside_modify _ List.mem_cons_self, hcell row hrow⟩
  · constructor
    · intro hsame row hrow hhex
      have hrows := hsame.rows
      rw [List.forall₂_map_right_iff, List.forall₂_same] at hrows
      have hnumber := (hrows row hrow).toNumber_eq
      rw [hcell row hrow, if_pos hhex] at hnumber
      exact hnumber.symm
    · intro hzero
      refine sameNumbers_map (fun row hrow => ?_) fun row hrow => ?_
      · refine ⟨row.keys_modify column _, row.sameOutside_modify _ List.mem_cons_self, ?_⟩
        rw [hcell row hrow]
        split
        · rename_i hhex
          exact (hzero row hrow hhex).symm
        · rfl
      · rw [row.cell_modify column rfl]
        exact Cell.sortsLike_readNumber (ColumnType.isBlank_or_isNumeric hsample h hrow)
          (hzero row hrow)

/-- Numbers as texts with signs, exponents and white space, a word, zero as a hexadecimal literal, a
number, a blank cell and white space. -/
def numerals : Dataset :=
  [.ofList [("a", .text "-1.5e3 ")], .ofList [("a", .text "+Infinity")],
    .ofList [("a", .text "0x0")], .ofList [("a", .number (.ofNat 7))], .ofList [("a", .text "")],
    .ofList [("a", .text "  ")], .ofList [("b", .null)]]

/-- The numbers of this column are kept. -/
theorem exists_run?_toNumber_numerals :
    numerals.length ≤ 7 ∧ ("a", .number) ∈ ColumnType.infer numerals 7 ∧
      ∃ result, (Step.cells "a" .toNumber).run? numerals = some result ∧
        SameNumbers "a" numerals result := by
  have hsample : numerals.length ≤ 7 := by decide
  have hnumber : ("a", .number) ∈ ColumnType.infer numerals 7 := by decide +kernel
  obtain ⟨result, hrun, -, hsame⟩ := exists_run?_toNumber hsample hnumber
  exact ⟨hsample, hnumber, result, hrun, hsame.2 (by decide +kernel)⟩

/-- A hexadecimal literal and a number. -/
def hexadecimalColumn : Dataset :=
  [.ofList [("a", .text "0x1F")], .ofList [("a", .number (.ofNat 5))]]

/-- The literal counts as a number when the type of the column is inferred, and the step makes zero
of it. -/
theorem not_toNumber_hexadecimalColumn :
    hexadecimalColumn.length ≤ 2 ∧ ("a", .number) ∈ ColumnType.infer hexadecimalColumn 2 ∧
      hexadecimalColumn.map (fun row => (row.cell "a").toNumber) = [.ofNat 31, .ofNat 5] ∧
      ∃ result, (Step.cells "a" .toNumber).run? hexadecimalColumn = some result ∧
        result.map (fun row => (row.cell "a").toNumber) = [.ofNat 0, .ofNat 5] :=
  ⟨by decide, by decide +kernel, by decide +kernel, _, rfl, by decide +kernel⟩

end tables

end Dashboard
