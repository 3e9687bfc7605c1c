import Dashboard.Proofs.Numeral
import Dashboard.Proofs.Transform.NumberColumn

/-!
# Transform.DecimalText · decimal texts are one number everywhere

The engines read a text whole, the steps that read numbers read the head of it, one of them only
after it has dropped marks of currencies. On a decimal text all of them find the same number.

* **`Numeral.IsDecimal`**: the text reads strictly as a number, and it is neither blank nor a
  hexadecimal literal.
* **`CellChange.onNumber?`**: the changes that read a number, with what they make of it.
* **`Row.ReadsNumber`**: aggregations, comparisons, sorting and formulas read one number in a
  column.
* **`decimal_readings_agree`** puts the readings together.
-/

namespace Dashboard

open Text

namespace Numeral

variable {s : String}

/-- A text that reads strictly as a number and is neither blank nor a hexadecimal literal. -/
structure IsDecimal (s : String) : Prop where
  ne_nil : trim s.toList ≠ []
  isHexadecimal_eq : isHexadecimal s.toList = false
  isNaN_eq : (strict s).isNaN = false

namespace IsDecimal

variable (h : IsDecimal s)

include h

/-- A decimal is not blank. -/
theorem isEmpty_eq : (trim s.toList).isEmpty = false := by
  simpa using h.ne_nil

/-- The head of a decimal is read as the decimal. -/
theorem leading?_eq : leading? s = some (strict s) := by
  rw [leading?, leadingChars?_eq h.isNaN_eq, h.isEmpty_eq, h.isHexadecimal_eq,
    if_neg Bool.false_ne_true, if_neg Bool.false_ne_true, strict]

/-- A decimal is a literal with perhaps white space around it. -/
theorem exists_literal : ∃ l : Literal, l.chars = trim s.toList := by
  have hnumber := h.isNaN_eq
  rw [strict, strictChars_of_trim_ne_nil h.ne_nil] at hnumber
  exact exists_literal_of_strictTrimmed h.isHexadecimal_eq hnumber

/-- No white space and no mark of a currency stands in a trimmed decimal text. -/
theorem isKept_of_mem_trim :
    ∀ c ∈ trim s.toList, isBlank c = false ∧ Cell.currencyMarks.contains c = false := by
  have hmarks : Cell.currencyMarks.any Literal.occurs = false := by decide
  obtain ⟨l, hl⟩ := h.exists_literal
  intro c hc
  have hoccurs := l.occurs_chars c (hl ▸ hc)
  constructor
  · exact Bool.eq_false_iff.2 fun hblank => by
      rw [not_occurs_of_isBlank hblank] at hoccurs
      cases hoccurs
  · exact Bool.eq_false_iff.2 fun hmark =>
      List.any_eq_false.1 hmarks c (List.contains_iff_mem.1 hmark) hoccurs

/-- Dropping marks of currencies and white space trims a decimal text. -/
theorem stripCurrency_eq : Cell.stripCurrency s.toList = trim s.toList := by
  obtain ⟨blanks, hsplit, hblanks⟩ := exists_blanks s.toList
  have hstart : s.toList.takeWhile isBlank ++ (trim s.toList ++ blanks) = s.toList := by
    rw [← hsplit, trimStart, List.takeWhile_append_dropWhile]
  have hdropped : ∀ l : List Char, (∀ c ∈ l, isBlank c = true) →
      l.filter (fun c => !isBlank c && !Cell.currencyMarks.contains c) = [] := by
    intro l hl
    rw [List.filter_eq_nil_iff]
    intro c hc
    simp [hl c hc]
  rw [Cell.stripCurrency]
  nth_rewrite 1 [← hstart]
  rw [List.filter_append, List.filter_append, hdropped blanks hblanks,
    hdropped _ fun c hc => List.mem_takeWhile_imp hc, List.nil_append, List.append_nil,
    List.filter_eq_self]
  intro c hc
  obtain ⟨hblank, hmark⟩ := h.isKept_of_mem_trim c hc
  rw [hblank, hmark]
  rfl

/-- The trimmed text reads like the text. -/
theorem leadingChars?_trim : leadingChars? (trim s.toList) = some (strict s) := by
  have htrim : trim (trim s.toList) = trim s.toList :=
    trim_eq_self fun c hc => (h.isKept_of_mem_trim c hc).1
  have hstrict : strictChars (trim s.toList) = strict s := by
    rw [strict, strictChars, strictChars, htrim]
  have hhex : isHexadecimal (trim s.toList) = false := by
    rw [isHexadecimal, htrim]
    exact h.isHexadecimal_eq
  have hread := leadingChars?_eq (hstrict ▸ h.isNaN_eq)
  rwa [htrim, h.isEmpty_eq, hhex, if_neg Bool.false_ne_true, if_neg Bool.false_ne_true,
    hstrict] at hread

end IsDecimal

end Numeral

/-! ## Steps -/

/-- What a change of cells makes of the number that it reads; none if it reads no number. -/
def CellChange.onNumber? : CellChange → Option (Binary64 → Binary64)
  | .toNumber => some id
  | .removeCurrency => some id
  | .round decimals => some (Cell.roundNumber decimals)
  | _ => none

variable {s : String} {change : CellChange} {f : Binary64 → Binary64}

/-- A change that reads a number finds that of a decimal text. It leaves null alone. -/
theorem CellChange.exists_apply?_text (hs : Numeral.IsDecimal s) (hf : change.onNumber? = some f) :
    ∃ g, change.apply? = some g ∧ g .null = .null ∧
      g (.text s) = .number (f (Numeral.strict s)) := by
  have hread : (Cell.text s).readNumber = .number (Numeral.strict s) := by
    rw [Cell.readNumber, hs.leading?_eq]
  have hcurrency : (Cell.text s).removeCurrency = .number (Numeral.strict s) := by
    have hchars : (Cell.text s).chars = s.toList := rfl
    rw [Cell.removeCurrency, hchars, hs.stripCurrency_eq, hs.leadingChars?_trim]
    rfl
  cases change with
  | toNumber =>
      obtain rfl : id = f := Option.some.inj hf
      exact ⟨_, rfl, rfl, hread⟩
  | removeCurrency =>
      obtain rfl : id = f := Option.some.inj hf
      exact ⟨_, rfl, rfl, hcurrency⟩
  | round decimals =>
      obtain rfl : Cell.roundNumber decimals = f := Option.some.inj hf
      exact ⟨_, rfl, rfl, by rw [Cell.round, hread]⟩
  | trim => cases hf
  | changeCase => cases hf
  | findReplace => cases hf

/-! ## Queries -/

/-- All engines read one number in a column of a row: aggregations, comparisons with a bound,
sorting and formulas. -/
structure Row.ReadsNumber (row : Row) (column : String) (x : Binary64) : Prop where
  measured_eq : row.measured column = x
  toNumber_eq : (row.cell column).toNumber = x
  sortNumber?_eq : (row.cell column).sortNumber? = some x
  valueIn_eq : Formula.valueIn row column = x

/-- A row with a decimal reads as its number. -/
theorem Row.readsNumber_of_isDecimal {row : Row} {column : String} (hs : Numeral.IsDecimal s)
    (hcell : row.cell column = .text s) : row.ReadsNumber column (Numeral.strict s) := by
  have hzero : (row.cell column).toNumberOrZero = Numeral.strict s := by
    rw [hcell, Cell.toNumberOrZero, Cell.toNumber, hs.isNaN_eq, if_neg Bool.false_ne_true]
  refine ⟨hzero, by rw [hcell, Cell.toNumber], ?_, ?_⟩
  · rw [hcell, Cell.sortNumber?, hs.isEmpty_eq, hs.isNaN_eq, if_neg Bool.false_ne_true,
      if_neg Bool.false_ne_true]
  · rw [Dashboard.valueIn_eq, hzero]

/-- **Decimal texts are one number everywhere.** The lenient reading of a decimal text is the strict
one. All engines read this number in a cell with the text, and the steps that read numbers put into
the cell what they make of it. -/
theorem decimal_readings_agree (hs : Numeral.IsDecimal s) :
    Numeral.leading? s = some (Numeral.strict s) ∧
      (∀ (row : Row) (column : String), row.cell column = .text s →
        row.ReadsNumber column (Numeral.strict s)) ∧
      ∀ (column : String) (change : CellChange) (f : Binary64 → Binary64),
        change.onNumber? = some f → ∀ dataset : Dataset,
          ∃ result, (Step.cells column change).run? dataset = some result ∧
            List.Forall₂ (fun row changed => row.cell column = .text s →
              changed.cell column = .number (f (Numeral.strict s))) dataset result := by
  refine ⟨hs.leading?_eq, fun row column hcell => Row.readsNumber_of_isDecimal hs hcell, ?_⟩
  intro column change f hf dataset
  obtain ⟨g, hg, hnull, htext⟩ := CellChange.exists_apply?_text hs hf
  refine ⟨dataset.map fun row => row.modify column g, ?_, ?_⟩
  · rw [Step.run?, Step.change?, hg]
    rfl
  · rw [List.forall₂_map_right_iff, List.forall₂_same]
    intro row _ hcell
    rw [row.cell_modify column hnull, hcell, htext]

/-- A number with a sign, a point at its end and an exponent, between white space. -/
theorem decimal_readings_agree_spaced :
    Numeral.IsDecimal "\u00a0+12.e-1\t" ∧
      Numeral.leading? "\u00a0+12.e-1\t" = some (Numeral.strict "\u00a0+12.e-1\t") := by
  have hdecimal : Numeral.IsDecimal "\u00a0+12.e-1\t" :=
    ⟨by decide +kernel, by decide +kernel, by decide +kernel⟩
  exact ⟨hdecimal, (decimal_readings_agree hdecimal).1⟩

end Dashboard
