import Dashboard.Dataset
import Dashboard.Proofs.Binary64.WholeSum
import Dashboard.Proofs.Row.OrderedMap
import Dashboard.Proofs.Tree.ReadBack

/-!
# Row.ReadBack · written tables read back

A table is written as a list of objects. Whole numbers below `2 ^ 53` are written as integers, all
other numbers with a point or a power of ten; either form gives the number back, except that
negative zero comes back as zero.

* **`Cell.decode?_toTree`**, **`Row.decode?_toTree`**: the documents of cells and rows are decoded
  to what they were made of. Names do not overwrite each other, since they are distinct.
* **`Dataset.ofJson?_toJson_toPrettyJson`**: both texts of a table without infinite numbers and
  not-a-numbers are read as the same rows.
-/

namespace Dashboard

open Dashboard.Tree (Writable FitsInteger)

/-- Decoding item by item what was encoded item by item. -/
theorem mapM_map_of_forall {α β γ : Type} {encode : α → β} {decode : β → Option γ} {g : α → γ}
    {l : List α} (h : ∀ a ∈ l, decode (encode a) = some (g a)) :
    (l.map encode).mapM decode = some (l.map g) := by
  induction l with
  | nil => rfl
  | cons a l ih =>
      obtain ⟨ha, hl⟩ := List.forall_mem_cons.1 h
      rw [List.map_cons, List.mapM_cons, ha, ih hl]
      rfl

/-- A list whose items are read back is read back. -/
theorem mapM_map_of_leftInverse {α β : Type} {encode : α → β} {decode : β → Option α} {l : List α}
    (h : ∀ a ∈ l, decode (encode a) = some a) : (l.map encode).mapM decode = some l := by
  have hmap := mapM_map_of_forall (g := id) h
  rwa [List.map_id] at hmap

/-! ## Numbers -/

namespace Binary64

variable {x : Binary64}

/-- Of the whole numbers only the zeros have the value zero. -/
theorem isZero_iff_truncate_eq_zero (h : x.isIntegral = true) :
    x.isZero = true ↔ x.truncate = 0 := by
  constructor
  · intro hzero
    rw [eq_zero_of_isZero (isFinite_of_isIntegral h) hzero, truncate_zero]
  · intro hzero
    rw [eq_zero_of_truncate_eq_zero h hzero]
    rfl

/-- Zeros lose their sign. -/
theorem dropZeroSign_of_isZero (h : x.isZero = true) : x.dropZeroSign = .zero false := if_pos h

/-- Other numbers stay as they are. -/
theorem dropZeroSign_of_not_isZero (h : x.isZero = false) : x.dropZeroSign = x :=
  if_neg (Bool.eq_false_iff.1 h)

/-- Only negative zero has a sign to lose. -/
theorem dropZeroSign_of_ne (hne : x ≠ .zero true) : x.dropZeroSign = x := by
  cases hzero : x.isZero with
  | false => exact dropZeroSign_of_not_isZero hzero
  | true =>
      have hx := eq_zero_of_isZero (isFinite_of_isZero hzero) hzero
      cases hsign : x.negative with
      | true => exact absurd (by rw [hx, hsign]) hne
      | false => rw [dropZeroSign_of_isZero hzero, hx, hsign]

/-- Dropping the sign of zero keeps numbers finite. -/
theorem isFinite_dropZeroSign (x : Binary64) : x.dropZeroSign.isFinite = x.isFinite := by
  cases hzero : x.isZero with
  | true =>
      rw [dropZeroSign_of_isZero hzero, isFinite_of_isZero hzero]
      rfl
  | false => rw [dropZeroSign_of_not_isZero hzero]

/-- Dropping the sign of zero makes no NaN. -/
theorem isNaN_dropZeroSign (x : Binary64) : x.dropZeroSign.isNaN = x.isNaN := by
  cases hzero : x.isZero with
  | true =>
      rw [dropZeroSign_of_isZero hzero, isNaN_of_isFinite (isFinite_of_isZero hzero)]
      rfl
  | false => rw [dropZeroSign_of_not_isZero hzero]

/-- A number equals itself without the sign of zero. -/
theorem same_dropZeroSign (hfin : x.isFinite = true) : x.same x.dropZeroSign = true := by
  cases hzero : x.isZero with
  | true => rw [dropZeroSign_of_isZero hzero, same_zero, hzero]
  | false =>
      rw [dropZeroSign_of_not_isZero hzero]
      exact same_self (isNaN_of_isFinite hfin)

/-- The integer of a whole number below `2 ^ 53` is that number without the sign of zero. -/
theorem ofInt_truncate (hwhole : x.isIntegral = true) (hlimit : x.wholePart < Cell.wholeLimit) :
    ofInt x.truncate = x.dropZeroSign := by
  have hsize : x.truncate.natAbs = x.wholePart := natAbs_signedUnits
  obtain ⟨hint, hvalue⟩ := @ofInt_of_natAbs_le x.truncate (hsize ▸ hlimit.le)
  cases hzero : x.isZero with
  | true =>
      have hnone : ofInt 0 = zero false := by decide +kernel
      rw [dropZeroSign_of_isZero hzero, (isZero_iff_truncate_eq_zero hwhole).1 hzero, hnone]
  | false =>
      have hne : x.truncate ≠ 0 := by
        rw [Ne, ← isZero_iff_truncate_eq_zero hwhole, hzero]
        exact Bool.false_ne_true
      rw [dropZeroSign_of_not_isZero hzero]
      exact eq_of_truncate_eq_of_ne_zero hint hwhole hvalue (by rwa [hvalue])

end Binary64

/-! ## Cells -/

namespace Cell

variable {cell : Cell} {x : Binary64} {depth : Nat}

/-- Whether the cell is no number, or a finite one. -/
def isFinite : Cell → Bool
  | .number x => x.isFinite
  | _ => true

/-- The cell itself, where negative zero counts as zero. -/
def dropZeroSign : Cell → Cell
  | .number x => .number x.dropZeroSign
  | cell => cell

/-- What is not written as an integer is not zero. -/
theorem isZero_eq_false_of_not_whole (hfin : x.isFinite = true)
    (h : ¬(x.isIntegral = true ∧ x.wholePart < wholeLimit)) : x.isZero = false := by
  by_contra hzero
  have hx := Binary64.eq_zero_of_isZero hfin (Bool.not_eq_false _ ▸ hzero)
  have hpart : ∀ s, (Binary64.zero s).wholePart < wholeLimit := by decide +kernel
  exact h ⟨hx ▸ Binary64.isIntegral_zero _, hx ▸ hpart _⟩

/-- A finite number is written as an integer that denotes it, or as it is. -/
theorem numberTree_cases (hfin : x.isFinite = true) :
    (∃ i : Int, i.natAbs < 2 ^ (53 : Nat) ∧ numberTree x = .integer i ∧
        .ofInt i = x.dropZeroSign) ∨
      numberTree x = .real x ∧ x.dropZeroSign = x := by
  by_cases h : x.isIntegral = true ∧ x.wholePart < wholeLimit
  · have hsize : x.truncate.natAbs = x.wholePart := Binary64.natAbs_signedUnits
    refine .inl ⟨x.truncate, hsize ▸ h.2, ?_, Binary64.ofInt_truncate h.1 h.2⟩
    rw [numberTree, if_pos]
    simpa using h
  · refine .inr ⟨?_, Binary64.dropZeroSign_of_not_isZero (isZero_eq_false_of_not_whole hfin h)⟩
    rw [numberTree, if_neg]
    simpa using h

/-- A finite number is read back, but for the sign of zero. -/
theorem ofTree?_numberTree (hfin : x.isFinite = true) :
    ofTree? (numberTree x) = some (.number x.dropZeroSign) := by
  rcases numberTree_cases hfin with ⟨i, hsize, htree, hvalue⟩ | ⟨htree, hvalue⟩
  · have hfits : Binary64.int64Min ≤ i ∧ i < 2 ^ (64 : Nat) := by
      rw [Binary64.int64Min]
      omega
    rw [htree, ofTree?, if_pos hfits, hvalue]
  · rw [htree, ofTree?, hvalue]

/-- The document of a finite number can be written. -/
theorem writable_numberTree (hfin : x.isFinite = true) : Writable depth (numberTree x) := by
  rcases numberTree_cases hfin with ⟨i, hsize, htree, -⟩ | ⟨htree, -⟩
  · have hfits : FitsInteger i := by
      rw [FitsInteger]
      omega
    rw [htree]
    exact .integer hfits
  · rw [htree]
    exact .real hfin

/-- A finite cell is read back, but for the sign of zero. -/
theorem ofTree?_toTree (h : cell.isFinite = true) :
    ofTree? cell.toTree = some cell.dropZeroSign := by
  cases cell with
  | null | bool | text => rfl
  | number x => exact ofTree?_numberTree h

/-- A cell is decoded from its document. -/
theorem decode?_toTree (h : cell.isFinite = true) :
    decode? cell.toTree = some cell.dropZeroSign := ofTree?_toTree h

/-- The document of a finite cell can be written. -/
theorem writable_toTree (h : cell.isFinite = true) : Writable depth cell.toTree := by
  cases cell with
  | null => exact .null
  | bool b => exact .bool b
  | text s => exact .text s
  | number x => exact writable_numberTree h

/-- Without the sign of zero a cell is the same. -/
theorem same_dropZeroSign (h : cell.isFinite = true) : cell.same cell.dropZeroSign = true := by
  cases cell with
  | null => rfl
  | bool b => exact beq_self_eq_true b
  | text s => exact beq_self_eq_true s
  | number x => exact Binary64.same_dropZeroSign h

end Cell

/-! ## Rows -/

namespace Row

variable {row : Row} {depth : Nat}

/-- The row itself, where negative zero counts as zero. -/
def dropZeroSigns (row : Row) : Row where
  fields := row.fields.map fun field => (field.1, field.2.dropZeroSign)
  distinct := by
    rw [Fields.keys, List.map_map]
    exact row.distinct

/-- The same names in the same order, with equal cells, numbers by value. -/
def Same (a b : Row) : Prop :=
  List.Forall₂ (fun f g => f.1 = g.1 ∧ f.2.same g.2 = true) a.fields b.fields

/-- A row is decoded from its document. -/
theorem decode?_toTree (h : ∀ cell ∈ row.cells, cell.isFinite = true) :
    decode? row.toTree = some row.dropZeroSigns := by
  have hpairs : Fields.pairs? row.toTree = some row.dropZeroSigns.fields :=
    mapM_map_of_forall fun field hfield => by
      simp only [Cell.decode?_toTree (h _ (List.mem_map_of_mem hfield)), Option.map_some]
  have hrow : ofList row.dropZeroSigns.fields = row.dropZeroSigns :=
    eq_of_fields_eq ((fields_ofList _).trans (Fields.collect_of_nodup row.dropZeroSigns.distinct))
  rw [decode?_eq_map_pairs?, hpairs, Option.map_some, hrow]

/-- The document of a row of finite cells can be written. -/
theorem writable_toTree (h : ∀ cell ∈ row.cells, cell.isFinite = true) :
    Writable (depth + 1) row.toTree := by
  refine .object fun m hm => ?_
  obtain ⟨field, hfield, rfl⟩ := List.mem_map.1 hm
  exact Cell.writable_toTree (h _ (List.mem_map_of_mem hfield))

/-- Without the signs of zeros a row is the same. -/
theorem same_dropZeroSigns (h : ∀ cell ∈ row.cells, cell.isFinite = true) :
    row.Same row.dropZeroSigns := by
  rw [Same, dropZeroSigns, List.forall₂_map_right_iff, List.forall₂_same]
  intro field hfield
  exact ⟨rfl, Cell.same_dropZeroSign (h _ (List.mem_map_of_mem hfield))⟩

end Row

/-! ## Tables -/

namespace Dataset

variable {dataset : Dataset} {depth : Nat}

/-- The same number of rows, the same in each position. -/
def Same (a b : Dataset) : Prop := List.Forall₂ Row.Same a b

/-- The document of a dataset of finite cells can be written. -/
theorem writable_toTree (h : ∀ row ∈ dataset, ∀ cell ∈ row.cells, cell.isFinite = true) :
    Writable (depth + 2) dataset.toTree := by
  refine .list fun t ht => ?_
  obtain ⟨row, hrow, rfl⟩ := List.mem_map.1 ht
  exact Row.writable_toTree (h row hrow)

/-- The document of a dataset is decoded, but for the signs of zeros. -/
theorem decode?_toTree (h : ∀ row ∈ dataset, ∀ cell ∈ row.cells, cell.isFinite = true) :
    decode? dataset.toTree = some (dataset.map Row.dropZeroSigns) :=
  mapM_map_of_forall fun row hrow => Row.decode?_toTree (h row hrow)

/-- Without the signs of zeros a dataset is the same. -/
theorem same_dropZeroSigns (h : ∀ row ∈ dataset, ∀ cell ∈ row.cells, cell.isFinite = true) :
    Same dataset (dataset.map Row.dropZeroSigns) := by
  rw [Same, List.forall₂_map_right_iff, List.forall₂_same]
  exact fun row hrow => Row.same_dropZeroSigns (h row hrow)

/-- **Reading a table undoes writing it.** Both layouts of a table with finite numbers are read as
the same rows with the same fields in the same order; only the sign of negative zero is lost. -/
theorem ofJson?_toJson_toPrettyJson
    (h : ∀ row ∈ dataset, ∀ cell ∈ row.cells, cell.isFinite = true) :
    ofJson? dataset.toJson = some (dataset.map Row.dropZeroSigns) ∧
      ofJson? dataset.toPrettyJson = some (dataset.map Row.dropZeroSigns) ∧
      Same dataset (dataset.map Row.dropZeroSigns) := by
  have hwritable : Writable Tree.maxDepth dataset.toTree := @writable_toTree _ 125 h
  have hdecode := decode?_toTree h
  refine ⟨?_, ?_, same_dropZeroSigns h⟩
  · rw [ofJson?, toJson, Tree.ofJson?_compactText hwritable]
    exact hdecode
  · rw [ofJson?, toPrettyJson, Tree.ofJson?_prettyText hwritable]
    exact hdecode

/-- Rows with quotation marks, control characters and letters beyond ASCII in names and texts, and
with numbers on both sides of `2 ^ 53`. -/
def unusual : Dataset :=
  [.ofList [("say \"a\\b\"", .text "tab\tand\x01"), ("größe", .number (.ofNat 9007199254740991)),
    ("∑", .number (.ofNat 9007199254740992)), ("", .text "日本 🙂")],
   .empty,
   .ofList [("zero", .number (.zero true)), ("half", .number (.ofBits 0x3FE0000000000000)),
    ("least", .number (.ofBits 1)), ("none", .null), ("yes", .bool true)]]

/-- Unusual names and numbers are written and read back in both layouts. -/
theorem ofJson?_toJson_unusual :
    (∀ row ∈ unusual, ∀ cell ∈ row.cells, cell.isFinite = true) ∧
      ofJson? (toJson unusual) = some (unusual.map Row.dropZeroSigns) ∧
      ofJson? (toPrettyJson unusual) = some (unusual.map Row.dropZeroSigns) ∧
      Same unusual (unusual.map Row.dropZeroSigns) := by
  have hfinite : ∀ row ∈ unusual, ∀ cell ∈ row.cells, cell.isFinite = true := by decide +kernel
  exact ⟨hfinite, ofJson?_toJson_toPrettyJson hfinite⟩

end Dataset

end Dashboard
