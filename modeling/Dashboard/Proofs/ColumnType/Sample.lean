import Dashboard.Proofs.FirstSeen
import Dashboard.Proofs.Row.OrderedMap
import Dashboard.ColumnType

/-!
# ColumnType.Sample · what more rows do to the types of columns

Types are inferred from the rows at the head of a dataset. A type hangs only on which cells that are
not blank stand in its column, so neither their order nor blank cells matter, and more cells can
only make it weaker.

* **`ColumnType.weakness`** orders the types: number, date, text.
* **`ColumnType.typeOf?_eq`**: the type that inference gives to a field of the sample.
* **`ColumnType.classify_mono`**: more cells have the same type or a weaker one.
* **`ColumnType.infer_of_more_rows`**: what a larger sample, another order and blank cells change.
-/

namespace Dashboard

namespace ColumnType

/-! ## The order of types -/

/-- How weak a type is: how late it comes in number, date, text. -/
def weakness : ColumnType → Nat
  | .number => 0
  | .date => 1
  | .text => 2

instance : LE ColumnType := ⟨fun a b => a.weakness ≤ b.weakness⟩

instance : DecidableLE ColumnType := fun a b => Nat.decLe a.weakness b.weakness

variable {cells more : List Cell} {rows others added : List Row} {field : String}
  {dataset : Dataset} {sample : Nat}

/-! ## Types of lists of cells -/

/-- More cells have the same type or a weaker one. -/
theorem classify_mono (hne : cells ≠ []) (h : cells ⊆ more) : classify cells ≤ classify more := by
  have hmore : more ≠ [] := by
    rintro rfl
    exact hne (List.subset_nil.1 h)
  -- a test that all of the more cells pass is passed by the fewer
  have htest : ∀ p : Cell → Bool, more.all p = true → cells.all p = true := by
    intro p hall
    rw [List.all_eq_true] at hall ⊢
    exact fun cell hcell => hall cell (h hcell)
  have hnumeric := htest Cell.isNumeric
  have hdate := htest fun cell => cell.date?.isSome
  rw [classify, classify, List.isEmpty_eq_false_iff.2 hne, List.isEmpty_eq_false_iff.2 hmore,
    if_neg Bool.false_ne_true, if_neg Bool.false_ne_true]
  revert hnumeric hdate
  generalize more.all Cell.isNumeric = numbers, cells.all Cell.isNumeric = numbers',
    (more.all fun cell => cell.date?.isSome) = dates,
    (cells.all fun cell => cell.date?.isSome) = dates'
  revert numbers numbers' dates dates'
  decide

/-- The order of the cells does not matter. -/
theorem classify_perm (h : cells.Perm more) : classify cells = classify more := by
  rw [classify, classify, h.isEmpty_eq, h.all_eq, h.all_eq]

/-! ## Fields of rows -/

/-- More rows add their names behind the names of the first ones. -/
theorem fieldNames_append :
    fieldNames (rows ++ others) = (others.flatMap Row.keys).foldl
      (fun names key => if key ∈ names then names else names ++ [key]) (fieldNames rows) := by
  rw [fieldNames, List.flatMap_append, List.foldl_append]
  rfl

/-- Names are only ever added at the end. -/
theorem prefix_fieldNames_append : fieldNames rows <+: fieldNames (rows ++ others) := by
  rw [fieldNames_append]
  generalize fieldNames rows = names
  induction others.flatMap Row.keys generalizing names with
  | nil => exact List.prefix_refl names
  | cons key keys ih =>
      rw [List.foldl_cons]
      refine List.IsPrefix.trans ?_ (ih _)
      split
      · exact List.prefix_refl names
      · exact List.prefix_append names [key]

/-- Names that are added unless they are there come in the order in which they are first seen. -/
theorem firstSeen_foldl_keys (keys : List String) :
    FirstSeen (keys.foldl (fun names key => if key ∈ names then names else names ++ [key]) [])
      keys := by
  induction keys using List.reverseRecOn with
  | nil => exact firstSeen_nil
  | append_singleton keys key ih =>
      rw [List.foldl_append, List.foldl_cons, List.foldl_nil]
      split
      · exact ih.concat_of_mem ‹_›
      · exact ih.concat_of_notMem ‹_›

/-- The names are those of the fields of any row. -/
theorem mem_fieldNames : field ∈ fieldNames rows ↔ ∃ row ∈ rows, field ∈ row.keys := by
  rw [fieldNames, (firstSeen_foldl_keys _).mem_iff, List.mem_flatMap]

/-- A cell that is not blank stands under a name of its row. -/
theorem mem_keys_of_isBlank {row : Row} (h : (row.cell field).isBlank = false) :
    field ∈ row.keys := by
  by_contra hnot
  have hmissing : row.get? field = none := Fields.get?_eq_none_iff.2 hnot
  rw [Row.cell, hmissing] at h
  cases h

/-- The filled cells of more rows come behind those of the first ones. -/
theorem filledCells_append :
    filledCells (rows ++ others) field = filledCells rows field ++ filledCells others field := by
  rw [filledCells, List.map_append, List.filter_append]
  rfl

/-- A column has no filled cells exactly if all its cells are blank. -/
theorem filledCells_eq_nil_iff :
    filledCells rows field = [] ↔ ∀ row ∈ rows, (row.cell field).isBlank = true := by
  simp [filledCells, List.filter_eq_nil_iff]

/-! ## Samples -/

/-- The type of a field, if it is one of the fields of the sample. -/
def typeOf? (dataset : Dataset) (sample : Nat) (field : String) : Option ColumnType :=
  (infer dataset sample).lookup field

/-- The type of a field is that of its filled cells in the sample, if the sample has the field. -/
theorem typeOf?_eq : typeOf? dataset sample field =
    if field ∈ fieldNames (dataset.take sample) then
      some (classify (filledCells (dataset.take sample) field))
    else none := by
  rw [typeOf?, infer]
  split
  · rename_i hmem
    exact List.lookup_graph _ hmem
  · rename_i hmem
    rw [List.lookup_eq_none_iff]
    intro pair hpair
    obtain ⟨name, hname, rfl⟩ := List.mem_map.1 hpair
    rw [bne_iff_ne]
    rintro rfl
    exact hmem hname

/-- A field with a filled cell in the sample has a type. -/
theorem typeOf?_of_filled (h : ∃ row ∈ dataset.take sample, (row.cell field).isBlank = false) :
    typeOf? dataset sample field = some (classify (filledCells (dataset.take sample) field)) := by
  obtain ⟨row, hrow, hfilled⟩ := h
  rw [typeOf?_eq, if_pos (mem_fieldNames.2 ⟨row, hrow, mem_keys_of_isBlank hfilled⟩)]

/-- The types are listed under the names of the fields in the sample. -/
theorem names_infer : (infer dataset sample).map Prod.fst = fieldNames (dataset.take sample) := by
  rw [infer, List.map_map]
  exact List.map_id _

/-- Rows in another order give every field the same type. -/
theorem typeOf?_perm {other : Dataset} {size : Nat}
    (h : (other.take size).Perm (dataset.take sample)) (field : String) :
    typeOf? other size field = typeOf? dataset sample field := by
  have hmem : field ∈ fieldNames (other.take size) ↔ field ∈ fieldNames (dataset.take sample) := by
    simp only [mem_fieldNames, h.mem_iff]
  have hcells : (filledCells (other.take size) field).Perm
      (filledCells (dataset.take sample) field) := (h.map _).filter _
  simp only [typeOf?_eq, hmem, classify_perm hcells]

/-- Rows where a field is blank or missing keep its type. If it had none, it is a text column when
it appears. -/
theorem typeOf?_of_blank_rows {other added : Dataset} {size : Nat}
    (h : other.take size = dataset.take sample ++ added)
    (hblank : ∀ row ∈ added, (row.cell field).isBlank = true) :
    typeOf? other size field = typeOf? dataset sample field ∨
      typeOf? dataset sample field = none ∧ typeOf? other size field = some .text := by
  rw [typeOf?_eq, typeOf?_eq, h, filledCells_append, filledCells_eq_nil_iff.2 hblank,
    List.append_nil]
  by_cases hmem : field ∈ fieldNames (dataset.take sample)
  · exact .inl (by rw [if_pos hmem, if_pos (prefix_fieldNames_append.mem hmem)])
  · have hnil : filledCells (dataset.take sample) field = [] := by
      rw [filledCells_eq_nil_iff]
      intro row hrow
      by_contra hfilled
      exact hmem (mem_fieldNames.2
        ⟨row, hrow, mem_keys_of_isBlank ((Bool.not_eq_true _).mp hfilled)⟩)
    rw [if_neg hmem, hnil]
    split
    · exact .inr ⟨rfl, rfl⟩
    · exact .inl rfl

/-- **Types only weaken as more rows are seen.** The fields of a smaller sample are listed first in
a larger one, and a field with a cell that is not blank in the smaller sample has a type in both, in
the larger one the same or a weaker one. Within a sample the order of the rows does not matter, and
no row where a field is blank or missing changes the type of this field, wherever it is added; it
can only make a text column of a field that the sample did not have. -/
theorem infer_of_more_rows (dataset : Dataset) {small large : Nat} (h : small ≤ large) :
    (infer dataset small).map Prod.fst <+: (infer dataset large).map Prod.fst ∧
      (∀ field, (∃ row ∈ dataset.take small, (row.cell field).isBlank = false) →
        ∃ before after, typeOf? dataset small field = some before ∧
          typeOf? dataset large field = some after ∧ before ≤ after) ∧
      (∀ (other : Dataset) (size : Nat), (other.take size).Perm (dataset.take large) →
        ∀ field, typeOf? other size field = typeOf? dataset large field) ∧
      ∀ (other added : Dataset) (size : Nat) (field : String),
        (other.take size).Perm (dataset.take large ++ added) →
        (∀ row ∈ added, (row.cell field).isBlank = true) →
        typeOf? other size field = typeOf? dataset large field ∨
          typeOf? dataset large field = none ∧ typeOf? other size field = some .text := by
  have hhead : dataset.take small <+: dataset.take large := List.take_prefix_take_left h
  refine ⟨?_, ?_, fun other size hperm => typeOf?_perm hperm, ?_⟩
  · obtain ⟨rest, hrest⟩ := hhead
    rw [names_infer, names_infer, ← hrest]
    exact prefix_fieldNames_append
  · rintro field ⟨row, hrow, hfilled⟩
    refine ⟨_, _, typeOf?_of_filled ⟨row, hrow, hfilled⟩,
      typeOf?_of_filled ⟨row, hhead.subset hrow, hfilled⟩, classify_mono ?_ ?_⟩
    · rw [Ne, filledCells_eq_nil_iff]
      intro hblank
      rw [hblank row hrow] at hfilled
      cases hfilled
    · exact ((hhead.sublist.map _).filter _).subset
  · intro other added size field hperm hblank
    -- first the added rows at the end, then all rows in their new order
    have htake : (dataset.take large ++ added).take (dataset.take large ++ added).length =
        dataset.take large ++ added := List.take_length
    rw [typeOf?_perm (hperm.trans (.of_eq htake.symm)) field]
    exact typeOf?_of_blank_rows htake hblank

/-- A time and a date, with a word and a number further down; the note is blank at first. -/
def soonDates : Dataset :=
  [.ofList [("due", .number (.ofNat 0))],
    .ofList [("due", .text "2024-01-05"), ("note", .text "")],
    .ofList [("note", .number (.ofNat 7)), ("due", .text "soon")]]

/-- The column of due dates has numbers, dates and texts as the sample grows. The note is not bound
by this: it is a text column while it is blank. -/
theorem infer_soonDates :
    2 ≤ 3 ∧ (infer soonDates 1).map Prod.fst = ["due"] ∧
      (infer soonDates 2).map Prod.fst = ["due", "note"] ∧
      typeOf? soonDates 1 "due" = some .number ∧ typeOf? soonDates 2 "due" = some .date ∧
      (∃ before after, typeOf? soonDates 2 "due" = some before ∧
        typeOf? soonDates 3 "due" = some after ∧ before ≤ after ∧ after = .text) ∧
      typeOf? soonDates 2 "note" = some .text ∧ typeOf? soonDates 3 "note" = some .number ∧
      typeOf? soonDates.reverse 3 "due" = typeOf? soonDates 3 "due" := by
  have hmore := infer_of_more_rows soonDates (show 2 ≤ 3 by decide)
  obtain ⟨before, after, hbefore, hafter, hle⟩ := hmore.2.1 "due" (by decide +kernel)
  have htext : typeOf? soonDates 3 "due" = some .text := by decide +kernel
  refine ⟨by decide, by decide +kernel, by decide +kernel, by decide +kernel, by decide +kernel,
    ⟨before, after, hbefore, hafter, hle, Option.some.inj (hafter.symm.trans htext)⟩,
    by decide +kernel, by decide +kernel, ?_⟩
  exact hmore.2.2.1 soonDates.reverse 3 (List.reverse_perm soonDates) "due"

end ColumnType

end Dashboard
