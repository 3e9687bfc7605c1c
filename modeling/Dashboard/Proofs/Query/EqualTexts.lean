import Dashboard.Proofs.Numeral
import Dashboard.Proofs.Row.ReadBack
import Dashboard.Proofs.Transform.BlanksLast

/-!
# Query.EqualTexts · sorting cells with the same text

Filters and groups take cells with the same text for the same, while sorting compares numbers. The
two agree because a printed number reads back: a cell is sorted where its text would be. There are
two exceptions, the numbers that their text does not give back. A not-a-number stands among the
numbers but its text among the texts, and negative zero stands in front of the zero that is printed
for it.

* **`Cell.isOrdinary`** leaves these numbers out, and **`Cell.SameText`** says of two cells that
  filters and sorting both take them for the same.
* **`Cell.sortNumber?_toText`**: an ordinary cell and its text have the same number, or none.
* **`Cell.order_eq_iff_of_toText_eq`**: there are no other exceptions.
* **`sameText_tied`**: such cells are equal when sorting, and rows with such cells keep their order.
  The sort step also takes null and the text for null apart.
-/

namespace Dashboard

/-! ## Cells -/

namespace Cell

/-- Whether the cell is neither a not-a-number nor negative zero. -/
def isOrdinary : Cell → Bool
  | .number x => !x.isNaN && x != .zero true
  | _ => true

/-- Cells with the same text that are the same cell, or ordinary both. -/
def SameText (a b : Cell) : Prop :=
  a.toText = b.toText ∧ (a = b ∨ a.isOrdinary = true ∧ b.isOrdinary = true)

instance (a b : Cell) : Decidable (a.SameText b) :=
  inferInstanceAs (Decidable (_ ∧ (_ ∨ _ ∧ _)))

variable {a b c : Cell} {x y : Binary64}

/-- Cells that share their text with a third one share it with each other. -/
theorem SameText.of_common (ha : c.SameText a) (hb : c.SameText b) : a.SameText b := by
  refine ⟨ha.1.symm.trans hb.1, ?_⟩
  rcases ha.2 with rfl | ⟨-, hordinary⟩
  · exact hb.2
  · rcases hb.2 with rfl | ⟨-, hordinary'⟩
    · exact ha.2.imp Eq.symm And.symm
    · exact .inr ⟨hordinary, hordinary'⟩

/-- The ordinary numbers are those other than NaN and the negative zero. -/
theorem isOrdinary_number_iff :
    (number x).isOrdinary = true ↔ x.isNaN = false ∧ x ≠ .zero true := by
  rw [isOrdinary, Bool.and_eq_true, Bool.not_eq_true', bne_iff_ne]

/-- A printed number is sorted by what it reads as. -/
theorem sortNumber?_plainText (h : x.isNaN = false) :
    (text x.plainText).sortNumber? = some x.dropZeroSign := by
  have hread := Numeral.strict_plainText h
  have hfilled : (Text.trim x.plainText.toList).isEmpty = false := by
    rw [Binary64.plainText, String.toList_ofList]
    exact Numeral.isEmpty_trim_plainChars h
  have hnan : x.dropZeroSign.isNaN = false := by rw [Binary64.isNaN_dropZeroSign, h]
  rw [sortNumber?, hfilled, hread, hnan]
  rfl

/-- The text of an ordinary cell is sorted by the number of the cell. -/
theorem sortNumber?_toText (h : a.isOrdinary = true) :
    (text a.toText).sortNumber? = a.sortNumber? := by
  cases a with
  | null => decide +kernel
  | bool value => cases value <;> decide +kernel
  | text s => rfl
  | number x =>
      obtain ⟨hnan, hne⟩ := isOrdinary_number_iff.1 h
      rw [toText, sortNumber?_plainText hnan, Binary64.dropZeroSign_of_ne hne]
      rfl

/-- Equal cells are sorted by the same number, or by none. -/
theorem sortNumber?_eq_of_order_eq (h : a.order b = .eq) : a.sortNumber? = b.sortNumber? := by
  rw [order_eq_keyedFirst, keyedFirst] at h
  cases ha : a.sortNumber? with
  | none =>
      cases hb : b.sortNumber? with
      | none => rfl
      | some y =>
          rw [ha, hb] at h
          cases h
  | some x =>
      rw [ha] at h
      cases hb : b.sortNumber? with
      | none =>
          rw [hb] at h
          cases h
      | some y =>
          rw [hb] at h
          exact congrArg some (Binary64.totalOrder_eq_eq.1 h)

/-- A number that is sorted where its text is comes back from it. -/
theorem isOrdinary_of_sortNumber?_plainText (h : (text x.plainText).sortNumber? = some x) :
    (number x).isOrdinary = true := by
  rw [isOrdinary_number_iff]
  have hnan : x.isNaN = false := by
    rw [sortNumber?] at h
    split_ifs at h with _ hread
    rw [← Option.some.inj h]
    exact Bool.not_eq_true _ ▸ hread
  refine ⟨hnan, ?_⟩
  rintro rfl
  rw [sortNumber?_plainText hnan] at h
  exact absurd (Option.some.inj h) (by decide)

/-- Cells with the same text are equal when sorting, except for a not-a-number or a negative zero
together with another cell. -/
theorem order_eq_iff_of_toText_eq (h : a.toText = b.toText) :
    a.order b = .eq ↔ a = b ∨ a.isOrdinary = true ∧ b.isOrdinary = true := by
  constructor
  · intro horder
    have hnumber := sortNumber?_eq_of_order_eq horder
    cases a with
    | number x =>
        cases b with
        | number y => exact .inl (congrArg number (Option.some.inj hnumber))
        | text s =>
            obtain rfl : x.plainText = s := h
            exact .inr ⟨isOrdinary_of_sortNumber?_plainText hnumber.symm, rfl⟩
        | null | bool => cases hnumber
    | text s =>
        cases b with
        | number y =>
            obtain rfl : s = y.plainText := h
            exact .inr ⟨rfl, isOrdinary_of_sortNumber?_plainText hnumber⟩
        | null | bool | text => exact .inr ⟨rfl, rfl⟩
    | null | bool =>
        cases b with
        | number => cases hnumber
        | null | bool | text => exact .inr ⟨rfl, rfl⟩
  · rintro (rfl | ⟨ha, hb⟩)
    · exact Std.ReflCmp.compare_self
    · have hnumber : a.sortNumber? = b.sortNumber? := by
        rw [← sortNumber?_toText ha, ← sortNumber?_toText hb, h]
      have htext : a.textOrder b = .eq := by
        have hlower : Text.order (Text.lowerString b.toText) (Text.lowerString b.toText) = .eq :=
          Std.ReflCmp.compare_self
        have hplain : Text.order b.toText b.toText = .eq := Std.ReflCmp.compare_self
        rw [textOrder, h, hlower, hplain]
        rfl
      rw [order_eq_keyedFirst, keyedFirst, hnumber]
      cases b.sortNumber? with
      | some x => exact Binary64.totalOrder_eq_eq.2 rfl
      | none => exact htext

/-- Cells with the same text are equal in the order. -/
theorem order_eq_of_sameText (h : a.SameText b) : a.order b = .eq :=
  (order_eq_iff_of_toText_eq h.1).2 h.2

end Cell

/-! ## Rows -/

section rows

variable {a b : Row} {name column : String} {order : SortOrder} {field : Option String}
  {dataset : Dataset} {key : SortBy}

/-- Rows with cells of the same text keep their order when a chart is sorted. -/
theorem filter_sortRows (cell : Cell)
    (h : ∀ first ∈ dataset.head?,
      key.resolve? first field = none ∨ key.resolve? first field = some name) :
    ((sortRows key order field dataset).filter fun row => cell.SameText (row.cell name)) =
      dataset.filter fun row => cell.SameText (row.cell name) := by
  cases dataset with
  | nil => rfl
  | cons first rest =>
      rcases h first rfl with hnone | hname
      · rw [sortRows, hnone]
      · rw [sortRows_congr hname]
        apply (sortedStably_sortRows name order field (first :: rest)).filter_eq
        intro a b ha hb
        have hsame := (of_decide_eq_true ha).of_common (of_decide_eq_true hb)
        exact compareBy_eq_eq.2 (Cell.order_eq_of_sameText hsame)

/-- Rows whose cells are equal, and both blank or both filled, are tied with blanks last. -/
theorem compareBlanksLast_of_isBlank_eq
    (hblank : (a.cell column).isBlank = (b.cell column).isBlank)
    (h : (a.cell column).order (b.cell column) = .eq) :
    compareBlanksLast order column a b = .eq := by
  rw [compareBlanksLast, hblank]
  cases (b.cell column).isBlank with
  | true => rfl
  | false => exact compareBy_eq_eq.2 h

/-- Rows with cells of the same text, blank all or none, keep their order in the sort step. -/
theorem filter_sort (cell : Cell) :
    ((TableChange.apply (.sort column order) dataset).filter fun row =>
        cell.SameText (row.cell column) ∧ (row.cell column).isBlank = cell.isBlank) =
      dataset.filter fun row =>
        cell.SameText (row.cell column) ∧ (row.cell column).isBlank = cell.isBlank := by
  apply (sortedStably_sort column order dataset).filter_eq
  intro a b ha hb
  obtain ⟨hsameA, hblankA⟩ := of_decide_eq_true ha
  obtain ⟨hsameB, hblankB⟩ := of_decide_eq_true hb
  exact compareBlanksLast_of_isBlank_eq (hblankA.trans hblankB.symm)
    (Cell.order_eq_of_sameText (hsameA.of_common hsameB))

/-- **Cells with the same text tie.** Two cells with the same text are equal when sorting, unless
they are different and one is a not-a-number or negative zero. So sorting a chart leaves the rows
with such cells in the order in which they came. The sort step succeeds, and leaves those of them in
their order that are all blank, or all not: null goes behind the text for null. -/
theorem sameText_tied :
    (∀ a b : Cell, a.SameText b → a.order b = .eq) ∧
    (∀ (key : SortBy) (order : SortOrder) (field : Option String) (dataset : Dataset)
        (name : String) (cell : Cell),
      (∀ first ∈ dataset.head?,
        key.resolve? first field = none ∨ key.resolve? first field = some name) →
      ((sortRows key order field dataset).filter fun row => cell.SameText (row.cell name)) =
        dataset.filter fun row => cell.SameText (row.cell name)) ∧
    ∀ (column : String) (order : SortOrder) (dataset : Dataset) (cell : Cell), ∃ sorted : Dataset,
      Step.run? (.table (.sort column order)) dataset = some sorted ∧
      (sorted.filter fun row =>
          cell.SameText (row.cell column) ∧ (row.cell column).isBlank = cell.isBlank) =
        dataset.filter fun row =>
          cell.SameText (row.cell column) ∧ (row.cell column).isBlank = cell.isBlank :=
  ⟨fun _ _ => Cell.order_eq_of_sameText, fun _ _ _ _ _ cell => filter_sortRows cell,
    fun _ _ _ cell => ⟨_, rfl, filter_sort cell⟩⟩

/-- A year as a number and as a text, among other years. -/
def years : Dataset :=
  [.ofList [("year", .number (.ofNat 2023)), ("id", .text "first")],
   .ofList [("year", .text "1999"), ("id", .text "second")],
   .ofList [("year", .text "2023"), ("id", .text "third")]]

/-- A year as a number and as a text are tied, and a sort keeps their order. -/
theorem sameText_tied_years :
    (Cell.number (.ofNat 2023)).SameText (.text "2023") ∧
      (Cell.number (.ofNat 2023)).order (.text "2023") = .eq ∧
      ((sortRows .label .desc none years).filter fun row =>
          (Cell.text "2023").SameText (row.cell "year")) =
        years.filter fun row => (Cell.text "2023").SameText (row.cell "year") := by
  have hsame : (Cell.number (.ofNat 2023)).SameText (.text "2023") := by decide +kernel
  have hlabel : ∀ first ∈ years.head?,
      SortBy.label.resolve? first none = none ∨ SortBy.label.resolve? first none = some "year" := by
    decide +kernel
  exact ⟨hsame, sameText_tied.1 _ _ hsame, sameText_tied.2.1 _ _ _ _ _ _ hlabel⟩

/-- Rows in which null and the text for null stand in one column. -/
def nulls : Dataset := [.ofList [("a", .null)], .ofList [("a", .text "null")]]

/-- Cells with the same text that do not tie: a not-a-number and the text for it, the two zeros, and
null and the text for null in the sort step, which reverses their rows. -/
theorem equal_texts_not_tied :
    ((Cell.number .quietNaN).toText = (Cell.text "NaN").toText ∧
        (Cell.number .quietNaN).order (.text "NaN") = .lt) ∧
      ((Cell.number (.zero true)).toText = (Cell.number (.zero false)).toText ∧
        (Cell.number (.zero true)).order (.number (.zero false)) = .lt) ∧
      Cell.null.toText = (Cell.text "null").toText ∧
        Step.run? (.table (.sort "a" .asc)) nulls = some nulls.reverse := by
  refine ⟨by decide +kernel, by decide +kernel, rfl, ?_⟩
  have hfilled : nulls.filledIn "a" = [.ofList [("a", .text "null")]] := by decide +kernel
  have hblank : nulls.blankIn "a" = [.ofList [("a", .null)]] := by decide +kernel
  change some (TableChange.apply (.sort "a" .asc) nulls) = _
  rw [sort_eq_append, hfilled, hblank, sortWith, List.mergeSort_singleton]
  rfl

end rows

end Dashboard
