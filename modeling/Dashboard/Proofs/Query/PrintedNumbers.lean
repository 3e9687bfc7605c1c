import Dashboard.Proofs.Formula.Substitution
import Dashboard.Proofs.Numeral
import Dashboard.Proofs.Query.Aggregation
import Dashboard.Proofs.Row.Likeness
import Dashboard.Query.LiveValue

/-!
# Query.PrintedNumbers · the text of a number stands for that number

Cells are grouped and compared for equality by their texts, and the steps and formulas read texts as
numbers. None of this loses a number, since its text reads back as the number itself.

* **`ReadsAs s x`**: the strict reading, the lenient one and formulas all take the text `s` for the
  number `x`, by value.
* **`Binary64.plainText_eq_iff`**: so finite numbers share a text exactly if they have the same
  value.
* **`Dataset.HoldsOneNumber`**, **`Aggregation.KeepsApart`**: no group is made of rows with two
  finite numbers of different values.
-/

namespace Dashboard

variable {x y : Binary64}

/-! ## Reading back -/

/-- The readings of a text all take it for the number. -/
structure ReadsAs (s : String) (x : Binary64) : Prop where
  strict : (Numeral.strict s).same x = true
  leading : ∃ y, Numeral.leading? s = some y ∧ y.same x = true
  evaluate : ∃ y, Formula.evaluate s = .ok y ∧ y.same x = true

namespace Numeral

/-- A printed number is read from its head, but for the sign of zero. -/
theorem leading?_plainText (h : x.isNaN = false) : leading? x.plainText = some x.dropZeroSign := by
  have hstrict : strictChars x.plainChars = x.dropZeroSign := by
    rw [← strict_plainText h, strict, Binary64.plainText, String.toList_ofList]
  have hnumber : (strictChars x.plainChars).isNaN = false := by
    rw [hstrict, Binary64.isNaN_dropZeroSign, h]
  rw [leading?, Binary64.plainText, String.toList_ofList, leadingChars?_eq hnumber,
    isEmpty_trim_plainChars h, isHexadecimal_plainChars h, if_neg Bool.false_ne_true,
    if_neg Bool.false_ne_true, hstrict]

end Numeral

/-- A printed number is a formula of its own: a literal, or one behind a minus sign. -/
theorem Formula.evaluate_plainText (hfin : x.isFinite = true) :
    evaluate x.plainText = .ok x.dropZeroSign := by
  obtain ⟨hderives, hdepth, hvalue⟩ := derives_printed hfin
  have hfactor : Derives Literal .factor x.plainChars (printedTree x.plainChars) :=
    hderives [] nofun
  rw [evaluate_eq_read, Binary64.plainText, String.toList_ofList, read_eq_ok_iff]
  exact ⟨_, ⟨x.plainChars, [], (List.append_nil _).symm, .term (.factor hfactor), nofun⟩,
    hdepth.trans (by decide), hvalue⟩

/-- All readings take a printed finite number for the number. -/
theorem readsAs_plainText (hfin : x.isFinite = true) : ReadsAs x.plainText x := by
  have hnan := Binary64.isNaN_of_isFinite hfin
  have hsame := Binary64.same_symm (Binary64.same_dropZeroSign hfin)
  exact ⟨by rw [Numeral.strict_plainText hnan, hsame], ⟨_, Numeral.leading?_plainText hnan, hsame⟩,
    ⟨_, Formula.evaluate_plainText hfin, hsame⟩⟩

/-- Finite numbers share a text exactly if they have the same value. -/
theorem Binary64.plainText_eq_iff (hx : x.isFinite = true) (hy : y.isFinite = true) :
    x.plainText = y.plainText ↔ x.same y = true := by
  have hxnan := isNaN_of_isFinite hx
  have hynan := isNaN_of_isFinite hy
  constructor
  · intro htext
    rw [same_iff_dropZeroSign_eq hxnan hynan, ← Numeral.strict_plainText hxnan, htext,
      Numeral.strict_plainText hynan]
  · intro hsame
    rw [plainText, plainText, plainChars_congr hsame]

/-! ## Engines -/

/-- No two rows hold finite numbers of different values in a field. -/
def Dataset.HoldsOneNumber (rows : Dataset) (field : String) : Prop :=
  ∀ row ∈ rows, ∀ row' ∈ rows, ∀ x y, row.cell field = .number x → row'.cell field = .number y →
    x.isFinite = true → y.isFinite = true → x.same y = true

/-- Rows with finite numbers are in one group exactly if the numbers are equal. -/
theorem Row.groupKey_eq_iff {row row' : Row} {field : String} (hrow : row.cell field = .number x)
    (hrow' : row'.cell field = .number y) (hx : x.isFinite = true) (hy : y.isFinite = true) :
    row.groupKey field = row'.groupKey field ↔ x.same y = true := by
  rw [Row.groupKey, Row.groupKey, hrow, hrow']
  exact Binary64.plainText_eq_iff hx hy

/-- The rows of a group hold one number in its field. -/
theorem holdsOneNumber_rowsWith (dataset : Dataset) (field text : String) :
    (dataset.rowsWith field text).HoldsOneNumber field := by
  intro row hrow row' hrow' x y hx hy hxfin hyfin
  have hkey := of_decide_eq_true (List.mem_filter.1 hrow).2
  have hkey' := of_decide_eq_true (List.mem_filter.1 hrow').2
  exact (Row.groupKey_eq_iff hx hy hxfin hyfin).1 (hkey.trans hkey'.symm)

/-- Rows that hold one number do so within every group. -/
theorem Dataset.HoldsOneNumber.rowsWith {rows : Dataset} {field : String}
    (h : rows.HoldsOneNumber field) (other text : String) :
    (rows.rowsWith other text).HoldsOneNumber field := fun row hrow row' hrow' =>
  h row (List.mem_of_mem_filter hrow) row' (List.mem_of_mem_filter hrow')

/-- Every number of an aggregation is made of the rows with its texts, and these hold no two finite
numbers of different values in the dimension, nor in the field of the columns. -/
def Aggregation.KeepsApart (spec : AggregationSpec) (dataset : Dataset) : Aggregation → Prop
  | .grouped g => ∀ point ∈ g.points,
      point.2 = spec.reduced (dataset.rowsWith spec.dimension point.1) ∧
        (dataset.rowsWith spec.dimension point.1).HoldsOneNumber spec.dimension
  | .pivoted p => ∃ field, spec.colorBy = some field ∧
      ∀ entry ∈ p.rows, ∀ name v, (name, some v) ∈ p.labelled entry →
        ∃ rows : Dataset, rows = (dataset.rowsWith spec.dimension entry.1).rowsWith field name ∧
          v = spec.reduced rows ∧ rows.HoldsOneNumber spec.dimension ∧ rows.HoldsOneNumber field

/-- Aggregating keeps finite numbers of different values apart. -/
theorem keepsApart_aggregate (spec : AggregationSpec) (dataset : Dataset) :
    (aggregate spec dataset).KeepsApart spec dataset := by
  cases hsplit : spec.splitField? with
  | none =>
      rw [aggregate_of_splitField?_none hsplit]
      intro point hpoint
      obtain ⟨k, -, rfl⟩ := List.mem_map.1 hpoint
      exact ⟨rfl, holdsOneNumber_rowsWith dataset spec.dimension k⟩
  | some field =>
      rw [aggregate_of_splitField?_some hsplit]
      refine ⟨field, (Option.filter_eq_some_iff.1 hsplit).1, ?_⟩
      intro entry hentry name v hv
      obtain ⟨k, -, rfl⟩ := List.mem_map.1 hentry
      rw [labelled_map, List.mem_map] at hv
      obtain ⟨name, -, heq⟩ := hv
      obtain ⟨rfl, hreduced⟩ := Prod.mk.inj heq
      have hrows := holdsOneNumber_rowsWith dataset spec.dimension k
      exact ⟨_, rfl, eq_reduced_of_reduced? hreduced, hrows.rowsWith field name,
        holdsOneNumber_rowsWith _ field name⟩

/-- Among numbers a cell is found by value. -/
theorem Cell.isAmong_numbers {ys : List Binary64} (hx : x.isFinite = true)
    (hys : ∀ y ∈ ys, y.isFinite = true) :
    (Cell.number x).isAmong (ys.map .number) = ys.any fun y => x.same y := by
  rw [Cell.isAmong, List.any_map, Bool.eq_iff_iff, List.any_eq_true, List.any_eq_true]
  apply exists_congr
  intro y
  apply and_congr_right
  intro hy
  rw [Function.comp_apply, beq_iff_eq, eq_comm]
  exact Binary64.plainText_eq_iff hx (hys y hy)

/-- **Printed numbers read back.** All readings take the text of a finite number for the number, two
of them that of an infinity too, and what is no number is printed as no number. So finite numbers of
different values have different texts, pass no test for equality with each other, are not found
among each other, and never fall into one group. -/
theorem printed_numbers_read_back :
    (∀ x : Binary64, x.isFinite = true → ReadsAs x.plainText x) ∧
      (∀ negative, Numeral.strict (Binary64.infinite negative).plainText = .infinite negative ∧
        Numeral.leading? (Binary64.infinite negative).plainText = some (.infinite negative)) ∧
      (∀ x : Binary64, x.isNaN = true → (Numeral.strict x.plainText).isNaN = true) ∧
      (∀ x y : Binary64, x.isFinite = true → y.isFinite = true → x.same y = false →
        x.plainText ≠ y.plainText ∧
          Operator.equals.test (.number x) (.scalar (.number y)) = false ∧
          ∀ (row row' : Row) (field : String), row.cell field = .number x →
            row'.cell field = .number y → row.groupKey field ≠ row'.groupKey field) ∧
      (∀ (x : Binary64) (ys : List Binary64), x.isFinite = true →
        (∀ y ∈ ys, y.isFinite = true) →
          Operator.isIn.test (.number x) (.list (ys.map .number)) = ys.any (fun y => x.same y) ∧
          (LiveValue.list (ys.map .number)).accepts (.number x) =
            (ys.isEmpty || ys.any fun y => x.same y)) ∧
      ∀ (spec : AggregationSpec) (dataset : Dataset),
        (aggregate spec dataset).KeepsApart spec dataset := by
  refine ⟨fun _ => readsAs_plainText, ?_, ?_, ?_, ?_, keepsApart_aggregate⟩
  · intro negative
    exact ⟨Numeral.strict_plainText rfl, Numeral.leading?_plainText rfl⟩
  · intro x hnan
    cases x with
    | nan s p h =>
        have htext : (Binary64.nan s p h).plainText = "NaN" := rfl
        rw [htext]
        decide +kernel
    | infinite s => cases hnan
    | finite s m e h => cases hnan
  · intro x y hx hy hne
    have htext : x.plainText ≠ y.plainText := by
      rw [ne_eq, Binary64.plainText_eq_iff hx hy, hne]
      exact Bool.false_ne_true
    refine ⟨htext, beq_eq_false_iff_ne.2 htext, fun row row' field hrow hrow' => ?_⟩
    rw [ne_eq, Row.groupKey_eq_iff hrow hrow' hx hy, hne]
    exact Bool.false_ne_true
  · intro x ys hx hys
    refine ⟨Cell.isAmong_numbers hx hys, ?_⟩
    rw [LiveValue.accepts, Cell.isAmong_numbers hx hys, List.isEmpty_map]

/-- The greatest number below zero is printed with hundreds of places, and neighbours beyond
`2 ^ 53` differ in their last digit. -/
theorem printed_extremes_read_back :
    ReadsAs (Binary64.ofUnits true 1 1).plainText (Binary64.ofUnits true 1 1) ∧
      (Binary64.ofNat (2 ^ 53)).plainText ≠ (Binary64.ofNat (2 ^ 53 + 2)).plainText :=
  ⟨printed_numbers_read_back.1 _ (by decide +kernel),
    (printed_numbers_read_back.2.2.2.1 _ _ (by decide +kernel) (by decide +kernel)
      (by decide +kernel)).1⟩

end Dashboard
