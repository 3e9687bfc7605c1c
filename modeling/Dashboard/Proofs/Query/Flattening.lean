import Dashboard.Proofs.Query.Aggregation
import Mathlib.Data.List.Forall2

/-!
# Query.Flattening · what the rows of an aggregation show

An aggregation is flattened into rows with the key of a group under the name of the dimension and
numbers under other names. A row has one cell for each name. Where a number comes under the name of
the dimension, it takes the place of the key.

* **`GroupedSeries.Shows`**, **`PivotedSeries.Shows`**: a row shows all that it was made of.
* **`shows_toDataset_grouped_iff`**: grouped numbers are shown with their keys exactly if the
  measure is not the dimension.
* **`shows_toDataset_pivoted_iff`**: a split table is shown with its keys exactly if no column has
  the name of the dimension.
-/

namespace Dashboard

/-- Rows that are made one by one show what they are made of if each of them does. -/
theorem forall₂_map_row_iff {α : Type} {shows : α → Row → Prop} {row : α → Row} {p : Prop}
    {items : List α} (h : ∀ item ∈ items, shows item (row item) ↔ p) :
    List.Forall₂ shows items (items.map row) ↔ p ∨ items = [] := by
  rw [List.forall₂_map_right_iff, List.forall₂_same]
  constructor
  · intro hall
    by_cases hp : p
    · exact .inl hp
    · exact .inr (List.eq_nil_iff_forall_not_mem.2 fun item hitem =>
        hp ((h item hitem).1 (hall item hitem)))
  · rintro (hp | rfl) item hitem
    · exact (h item hitem).2 hp
    · cases hitem

/-! ## Grouped numbers -/

/-- The row of a group. -/
def GroupedSeries.row (g : GroupedSeries) (point : String × Binary64) : Row :=
  (Row.empty.insert g.dimension (.text point.1)).insert g.measure (.number point.2)

/-- The row shows the key of the group and its number, under the names of their fields. -/
structure GroupedSeries.Shows (g : GroupedSeries) (point : String × Binary64) (row : Row) :
    Prop where
  key : row.get? g.dimension = some (.text point.1)
  value : row.get? g.measure = some (.number point.2)

section grouped

variable {g : GroupedSeries} {point : String × Binary64}

/-- The dataset has the row of each group. -/
theorem GroupedSeries.toDataset_eq_map (g : GroupedSeries) : g.toDataset = g.points.map g.row :=
  rfl

/-- The number stands under the name of the measure. -/
theorem GroupedSeries.get?_measure_row : (g.row point).get? g.measure = some (.number point.2) :=
  Row.get?_insert_self _ _ _

/-- The number comes last, so the key stays if it stands elsewhere. -/
theorem GroupedSeries.get?_dimension_row_iff :
    (g.row point).get? g.dimension = some (.text point.1) ↔ g.dimension ≠ g.measure := by
  constructor
  · intro hkey heq
    rw [heq, get?_measure_row] at hkey
    cases hkey
  · intro hne
    rw [row, Row.get?_insert_of_ne _ _ hne, Row.get?_insert_self]

/-- A row shows its group exactly if the measure is not the dimension. -/
theorem GroupedSeries.shows_row_iff : g.Shows point (g.row point) ↔ g.dimension ≠ g.measure :=
  ⟨fun h => get?_dimension_row_iff.1 h.key,
    fun hne => ⟨get?_dimension_row_iff.2 hne, get?_measure_row⟩⟩

end grouped

/-- Grouped numbers come from a specification without a second field. -/
theorem splitField?_of_grouped {spec : AggregationSpec} {dataset : Dataset} {g : GroupedSeries}
    (h : aggregate spec dataset = .grouped g) : spec.splitField? = none := by
  cases hsplit : spec.splitField? with
  | none => rfl
  | some field =>
      rw [aggregate_of_splitField?_some hsplit] at h
      cases h

/-- **Grouped numbers as rows.** There is a row for each group, in order. It always shows the
number, and it shows the key exactly if the measure is another field than the dimension. So the
rows show everything exactly if these fields differ or there are no rows at all. -/
theorem shows_toDataset_grouped_iff {spec : AggregationSpec} {dataset : Dataset} {g : GroupedSeries}
    (h : aggregate spec dataset = .grouped g) :
    List.Forall₂ (fun point row => row.get? spec.measure = some (.number point.2) ∧
        (row.get? spec.dimension = some (.text point.1) ↔ spec.dimension ≠ spec.measure))
      g.points (aggregate spec dataset).toDataset ∧
    (List.Forall₂ g.Shows g.points (aggregate spec dataset).toDataset ↔
      spec.dimension ≠ spec.measure ∨ dataset = []) := by
  have haggregate := aggregate_of_splitField?_none (splitField?_of_grouped h) dataset
  rw [h] at haggregate
  obtain rfl := Aggregation.grouped.inj haggregate
  rw [h, Aggregation.toDataset, GroupedSeries.toDataset_eq_map]
  constructor
  · rw [List.forall₂_map_right_iff, List.forall₂_same]
    intro point _
    exact ⟨GroupedSeries.get?_measure_row, GroupedSeries.get?_dimension_row_iff⟩
  · rw [forall₂_map_row_iff fun _ _ => GroupedSeries.shows_row_iff, List.map_eq_nil_iff,
      distinctTexts_eq_nil_iff]

/-- Sales summed by region: the measure is another field, so the regions are shown. -/
theorem shows_sales_by_region :
    ∃ g, aggregate ⟨"region", "revenue", .sum, none⟩ someSales = .grouped g ∧
      g.points.map (·.1) = ["North", "South"] ∧
      List.Forall₂ g.Shows g.points
        (aggregate ⟨"region", "revenue", .sum, none⟩ someSales).toDataset := by
  have haggregate : aggregate ⟨"region", "revenue", .sum, none⟩ someSales = .grouped
      ⟨"region", "revenue", [("North", .ofNat 150), ("South", .ofNat 80)]⟩ :=
    (aggregate_of_splitField?_none rfl someSales).trans (by decide +kernel)
  exact ⟨_, haggregate, rfl, (shows_toDataset_grouped_iff haggregate).2.2 (.inl (by decide))⟩

/-- Rows counted by region in the field of the region itself: the count stands where the region
should be read. -/
theorem not_shows_regions_counted :
    ∃ g, aggregate ⟨"region", "region", .count, none⟩ [.ofList [("region", .text "North")]] =
        .grouped g ∧
      g.points = [("North", .ofNat 1)] ∧
      g.toDataset = [.ofList [("region", .number (.ofNat 1))]] ∧
      ¬List.Forall₂ g.Shows g.points g.toDataset := by
  have haggregate : aggregate ⟨"region", "region", .count, none⟩
      [.ofList [("region", .text "North")]] =
      .grouped ⟨"region", "region", [("North", .ofNat 1)]⟩ :=
    (aggregate_of_splitField?_none rfl _).trans (by decide +kernel)
  refine ⟨_, haggregate, rfl, by decide +kernel, ?_⟩
  rw [GroupedSeries.toDataset_eq_map, forall₂_map_row_iff fun _ _ => GroupedSeries.shows_row_iff]
  simp

/-! ## Split tables -/

/-- Puts a number under a name, if it is there. -/
def Row.insertPresent (row : Row) (field : String × Option Binary64) : Row :=
  match field.2 with
  | some value => row.insert field.1 (.number value)
  | none => row

/-- The row of a group of a split table. -/
def PivotedSeries.row (p : PivotedSeries) (entry : String × List (Option Binary64)) : Row :=
  (p.labelled entry).foldl Row.insertPresent (Row.empty.insert p.dimension (.text entry.1))

/-- The row shows the key of the group under the name of the dimension, the numbers that are there
under the names of their columns, and nothing for the columns without a number. -/
structure PivotedSeries.Shows (p : PivotedSeries) (entry : String × List (Option Binary64))
    (row : Row) : Prop where
  key : row.get? p.dimension = some (.text entry.1)
  cells : ∀ name cell, (name, cell) ∈ p.labelled entry → row.get? name = cell.map .number

section pivoted

variable {p : PivotedSeries} {entry : String × List (Option Binary64)} {row : Row}
  {fields : List (String × Option Binary64)} {name : String} {v : Binary64}

/-- The dataset of a split table has the row of each group. -/
theorem PivotedSeries.toDataset_eq_map (p : PivotedSeries) : p.toDataset = p.rows.map p.row :=
  rfl

/-- A name without a number keeps its cell. -/
theorem get?_foldl_insertPresent_of_absent (habsent : ∀ v, (name, some v) ∉ fields) :
    (fields.foldl Row.insertPresent row).get? name = row.get? name := by
  induction fields generalizing row with
  | nil => rfl
  | cons field rest ih =>
      rw [List.foldl_cons, ih fun v hmem => habsent v (List.mem_cons_of_mem _ hmem)]
      obtain ⟨other, cell⟩ := field
      cases cell with
      | none => rfl
      | some v =>
          apply Row.get?_insert_of_ne
          rintro rfl
          exact habsent v List.mem_cons_self

/-- A number that is there is found under its name, if the names are distinct. -/
theorem get?_foldl_insertPresent_of_mem (hnodup : (fields.map (·.1)).Nodup)
    (hmem : (name, some v) ∈ fields) :
    (fields.foldl Row.insertPresent row).get? name = some (.number v) := by
  induction fields generalizing row with
  | nil => cases hmem
  | cons field rest ih =>
      obtain ⟨hfield, hrest⟩ := List.nodup_cons.1 hnodup
      rw [List.foldl_cons]
      rcases List.mem_cons.1 hmem with rfl | hmem
      · -- the later names are others
        have hlater : ∀ w, (name, some w) ∉ rest := fun w hw =>
          hfield (List.mem_map.2 ⟨_, hw, rfl⟩)
        rw [get?_foldl_insertPresent_of_absent hlater]
        exact Row.get?_insert_self _ _ _
      · exact ih hrest hmem

end pivoted

/-- What holds of the table of an aggregation: the names of the columns are distinct, and every row
has a place for each column. -/
structure PivotedSeries.Regular (p : PivotedSeries) : Prop where
  nodup_series : p.series.Nodup
  length_eq : ∀ entry ∈ p.rows, entry.2.length = p.series.length

namespace PivotedSeries.Regular

variable {p : PivotedSeries} {entry : String × List (Option Binary64)} {name : String}
  {v : Binary64}

/-- The labels are the names of the columns. -/
theorem map_fst_labelled (h : p.Regular) (hentry : entry ∈ p.rows) :
    (p.labelled entry).map (·.1) = p.series :=
  List.map_fst_zip (Nat.le_of_eq (h.length_eq entry hentry).symm)

/-- No label occurs twice. -/
theorem nodup_labelled (h : p.Regular) (hentry : entry ∈ p.rows) :
    ((p.labelled entry).map (·.1)).Nodup := by
  rw [h.map_fst_labelled hentry]
  exact h.nodup_series

/-- A number that is there stands under the name of its column. -/
theorem get?_row_of_present (h : p.Regular) (hentry : entry ∈ p.rows)
    (hmem : (name, some v) ∈ p.labelled entry) : (p.row entry).get? name = some (.number v) :=
  get?_foldl_insertPresent_of_mem (h.nodup_labelled hentry) hmem

/-- Where there is no number, nothing stands under the name of the column. -/
theorem get?_row_of_absent (h : p.Regular) (hentry : entry ∈ p.rows)
    (hmem : (name, none) ∈ p.labelled entry) (hne : name ≠ p.dimension) :
    (p.row entry).get? name = none := by
  have habsent : ∀ v, (name, some v) ∉ p.labelled entry := by
    intro v hv
    cases List.inj_on_of_nodup_map (h.nodup_labelled hentry) hmem hv rfl
  rw [row, get?_foldl_insertPresent_of_absent habsent, Row.get?_insert_of_ne _ _ hne]
  rfl

/-- The key is hidden where a number comes under the name of the dimension. -/
theorem get?_dimension_row_iff (h : p.Regular) (hentry : entry ∈ p.rows) :
    (p.row entry).get? p.dimension = some (.text entry.1) ↔
      ∀ v, (p.dimension, some v) ∉ p.labelled entry := by
  constructor
  · intro hkey v hv
    rw [h.get?_row_of_present hentry hv] at hkey
    cases hkey
  · intro habsent
    rw [row, get?_foldl_insertPresent_of_absent habsent, Row.get?_insert_self]

/-- A row shows its group exactly if no column has the name of the dimension. -/
theorem shows_row_iff (h : p.Regular) (hentry : entry ∈ p.rows) :
    p.Shows entry (p.row entry) ↔ p.dimension ∉ p.series := by
  constructor
  · intro hshows hmem
    rw [← h.map_fst_labelled hentry, List.mem_map] at hmem
    obtain ⟨⟨name, cell⟩, hcell, rfl⟩ := hmem
    -- the column would have to read the key and a number, or the key and nothing
    have hread := hshows.key.symm.trans (hshows.cells _ _ hcell)
    cases cell <;> cases hread
  · intro hnot
    have hname : ∀ name cell, (name, cell) ∈ p.labelled entry → name ≠ p.dimension := by
      rintro name cell hcell rfl
      apply hnot
      rw [← h.map_fst_labelled hentry]
      exact List.mem_map.2 ⟨_, hcell, rfl⟩
    refine ⟨(h.get?_dimension_row_iff hentry).2 fun v hv => hname _ _ hv rfl, ?_⟩
    intro name cell hcell
    cases cell with
    | none => exact h.get?_row_of_absent hentry hcell (hname _ _ hcell)
    | some v => exact h.get?_row_of_present hentry hcell

end PivotedSeries.Regular

/-- A split table comes from a specification with a second field, and its parts are the texts of
that field and of the dimension. -/
theorem exists_field_of_pivoted {spec : AggregationSpec} {dataset : Dataset} {p : PivotedSeries}
    (h : aggregate spec dataset = .pivoted p) :
    ∃ field, p.series = distinctTexts field dataset ∧ p.dimension = spec.dimension ∧
      p.rows.map (·.1) = distinctTexts spec.dimension dataset ∧ p.Regular := by
  have hkeys := keys_aggregate spec dataset
  rw [h] at hkeys
  cases hsplit : spec.splitField? with
  | none =>
      rw [aggregate_of_splitField?_none hsplit] at h
      cases h
  | some field =>
      rw [aggregate_of_splitField?_some hsplit] at h
      obtain rfl := Aggregation.pivoted.inj h
      refine ⟨field, rfl, rfl, hkeys, (firstSeen_distinctTexts field dataset).nodup, ?_⟩
      intro entry hentry
      obtain ⟨k, -, rfl⟩ := List.mem_map.1 hentry
      exact List.length_map _

/-- **A split table as rows.** There is a row for each group, in order. It always shows the numbers
that are there, a column without a number is no field of it unless it has the name of the
dimension, and it shows the key exactly if no number comes under the name of the dimension. So the
rows show everything exactly if no column has that name. -/
theorem shows_toDataset_pivoted_iff {spec : AggregationSpec} {dataset : Dataset} {p : PivotedSeries}
    (h : aggregate spec dataset = .pivoted p) :
    List.Forall₂ (fun entry row =>
        (∀ name v, (name, some v) ∈ p.labelled entry → row.get? name = some (.number v)) ∧
        (∀ name, (name, none) ∈ p.labelled entry → name ≠ spec.dimension →
          row.get? name = none) ∧
        (row.get? spec.dimension = some (.text entry.1) ↔
          ∀ v, (spec.dimension, some v) ∉ p.labelled entry))
      p.rows (aggregate spec dataset).toDataset ∧
    (List.Forall₂ p.Shows p.rows (aggregate spec dataset).toDataset ↔
      spec.dimension ∉ p.series) := by
  obtain ⟨field, hseries, hdimension, hkeys, hregular⟩ := exists_field_of_pivoted h
  rw [h, ← hdimension, Aggregation.toDataset, PivotedSeries.toDataset_eq_map]
  constructor
  · rw [List.forall₂_map_right_iff, List.forall₂_same]
    intro entry hentry
    exact ⟨fun name v => hregular.get?_row_of_present hentry,
      fun name => hregular.get?_row_of_absent hentry, hregular.get?_dimension_row_iff hentry⟩
  · rw [forall₂_map_row_iff fun _ hentry => hregular.shows_row_iff hentry]
    -- a table without rows has no columns
    have hempty : p.rows = [] → p.dimension ∉ p.series := by
      intro hrows
      rw [hrows] at hkeys
      have hdataset := (distinctTexts_eq_nil_iff spec.dimension dataset).1 hkeys.symm
      rw [hseries, hdataset]
      exact List.not_mem_nil
    exact or_iff_left_of_imp hempty

/-- Sales by region and product: no product is called like the field of the regions, so the table
is shown with its regions. -/
theorem shows_sales_by_product :
    ∃ p, aggregate ⟨"region", "revenue", .sum, some "product"⟩ someSales = .pivoted p ∧
      p.rows = [("North", [some (.ofNat 100), some (.ofNat 50)]),
        ("South", [some (.ofNat 80), none])] ∧
      List.Forall₂ p.Shows p.rows
        (aggregate ⟨"region", "revenue", .sum, some "product"⟩ someSales).toDataset := by
  have haggregate : aggregate ⟨"region", "revenue", .sum, some "product"⟩ someSales = .pivoted
      ⟨"region", ["A", "B"], [("North", [some (.ofNat 100), some (.ofNat 50)]),
        ("South", [some (.ofNat 80), none])]⟩ :=
    (@aggregate_of_splitField?_some _ "product" rfl someSales).trans (by decide +kernel)
  exact ⟨_, haggregate, rfl, (shows_toDataset_pivoted_iff haggregate).2.2 (by decide)⟩

/-- A product that is called like the field of the regions: its amount stands where the region
should be read. -/
theorem not_shows_product_region :
    ∃ p, aggregate ⟨"region", "revenue", .sum, some "product"⟩
        [.ofList [("region", .text "North"), ("product", .text "region"),
          ("revenue", .number (.ofNat 5))]] = .pivoted p ∧
      p.series = ["region"] ∧ p.rows = [("North", [some (.ofNat 5)])] ∧
      p.toDataset = [.ofList [("region", .number (.ofNat 5))]] ∧
      ¬List.Forall₂ p.Shows p.rows p.toDataset := by
  have haggregate : aggregate ⟨"region", "revenue", .sum, some "product"⟩
      [.ofList [("region", .text "North"), ("product", .text "region"),
        ("revenue", .number (.ofNat 5))]] =
      .pivoted ⟨"region", ["region"], [("North", [some (.ofNat 5)])]⟩ :=
    (@aggregate_of_splitField?_some _ "product" rfl _).trans (by decide +kernel)
  obtain ⟨-, -, -, -, hregular⟩ := exists_field_of_pivoted haggregate
  refine ⟨_, haggregate, rfl, rfl, by decide +kernel, ?_⟩
  rw [PivotedSeries.toDataset_eq_map,
    forall₂_map_row_iff fun _ hentry => hregular.shows_row_iff hentry]
  simp

end Dashboard
