import Dashboard.Proofs.Query.Grouping
import Dashboard.Query.Aggregation

/-!
# Query.Aggregation · an aggregation says of its rows what they hold

The groups are built in one pass with an index. What comes out needs neither: it can be read off
the rows, text by text.

* **`Dataset.rowsWith`** picks the rows with a text in a field, and **`AggregationSpec.reduced`** is
  the number that such rows give.
* **`toList_groupBy`**, **`toList_groupByTwo`** say what the groups hold, and
  **`aggregate_of_splitField?_none`**, **`aggregate_of_splitField?_some`** what an aggregation
  returns.
* **`aggregate_eq_grouped`**, **`aggregate_eq_pivoted`**: keys and columns are distinct and in order
  of first appearance, and every number comes from exactly the rows with its texts.
-/

namespace Dashboard

/-! ## Rows by their texts -/

/-- The rows with a text in a field, in order. -/
def Dataset.rowsWith (dataset : Dataset) (field text : String) : Dataset :=
  dataset.filter fun row => row.groupKey field = text

/-- The number that rows give: their numbers of the measure, reduced. -/
def AggregationSpec.reduced (spec : AggregationSpec) (rows : Dataset) : Binary64 :=
  spec.aggregator.reduce (rows.map (·.measured spec.measure))

/-- The number that rows give, if there are any. -/
def AggregationSpec.reduced? (spec : AggregationSpec) (rows : Dataset) : Option Binary64 :=
  if rows.isEmpty then none else some (spec.reduced rows)

section groups

variable (dimension field measure : String) (dataset : Dataset)

/-- There are no rows of a group exactly if no row has its key. -/
theorem rowsWith_eq_nil_iff {text : String} :
    dataset.rowsWith field text = [] ↔ ∀ row ∈ dataset, row.groupKey field ≠ text := by
  simp [Dataset.rowsWith, List.filter_eq_nil_iff]

/-- Picking by one field and then by another asks for both texts. -/
theorem rowsWith_rowsWith (text name : String) :
    (dataset.rowsWith dimension text).rowsWith field name = dataset.filter fun row =>
      row.groupKey dimension = text ∧ row.groupKey field = name := by
  rw [Dataset.rowsWith, Dataset.rowsWith, List.filter_filter]
  apply List.filter_congr
  intro row _
  rw [Bool.decide_and, Bool.and_comm]

/-- A last row adds its key unless it is there. -/
theorem distinctTexts_concat (row : Row) :
    distinctTexts field (dataset ++ [row]) =
      if row.groupKey field ∈ distinctTexts field dataset then distinctTexts field dataset
      else distinctTexts field dataset ++ [row.groupKey field] := by
  rw [distinctTexts, List.foldl_append]
  rfl

/-- The keys come in the order in which they are first seen. -/
theorem firstSeen_distinctTexts :
    FirstSeen (distinctTexts field dataset) (dataset.map (·.groupKey field)) := by
  induction dataset using List.reverseRecOn with
  | nil => exact firstSeen_nil
  | append_singleton dataset row ih =>
      rw [distinctTexts_concat, List.map_append]
      split
      · exact ih.concat_of_mem ‹_›
      · exact ih.concat_of_notMem ‹_›

/-- There are no keys exactly if there are no rows. -/
theorem distinctTexts_eq_nil_iff : distinctTexts field dataset = [] ↔ dataset = [] := by
  rw [(firstSeen_distinctTexts field dataset).eq_nil_iff, List.map_eq_nil_iff]

/-- Every text that is listed is the text of some row. -/
theorem rowsWith_ne_nil {text : String} (h : text ∈ distinctTexts field dataset) :
    dataset.rowsWith field text ≠ [] := by
  rw [(firstSeen_distinctTexts field dataset).mem_iff, List.mem_map] at h
  obtain ⟨row, hrow, htext⟩ := h
  intro hnil
  exact (rowsWith_eq_nil_iff field dataset).1 hnil row hrow htext

/-! ## What the groups hold -/

/-- Grouping collects the measured values of each key. -/
theorem groupBy_eq_collect :
    groupBy dimension measure dataset =
      .collect (·.groupKey dimension) #[] (fun values row => values.push (row.measured measure))
        dataset :=
  rfl

/-- Grouping by two fields collects the groups of each key. -/
theorem groupByTwo_eq_collect :
    groupByTwo dimension field measure dataset =
      .collect (·.groupKey dimension) .empty
        (fun parts row => parts.update (row.groupKey field) #[] (·.push (row.measured measure)))
        dataset :=
  rfl

/-- Groups by the text of a field have the texts of that field for their keys. -/
theorem keys_collect_groupKey {α : Type} (initial : α) (step : α → Row → α) :
    (Groups.collect (·.groupKey field) initial step dataset).keys = distinctTexts field dataset :=
  (Groups.firstSeen_keys_collect _ initial step dataset).eq (firstSeen_distinctTexts field dataset)

/-- The groups hold, for each text of the dimension, the numbers of the rows with that text. -/
theorem toList_groupBy :
    (groupBy dimension measure dataset).toList = (distinctTexts dimension dataset).map fun k =>
      (k, ((dataset.rowsWith dimension k).map (·.measured measure)).toArray) := by
  rw [groupBy_eq_collect, Groups.toList_collect, keys_collect_groupKey]
  apply List.map_congr_left
  intro k _
  rw [List.foldl_push_eq_append, Array.empty_append]
  rfl

/-- The values of a group are measured on its rows, in order. -/
theorem get?_groupBy (text : String) :
    (groupBy field measure dataset).get? text =
      if (dataset.rowsWith field text).isEmpty then none
      else some ((dataset.rowsWith field text).map (·.measured measure)).toArray := by
  rw [groupBy_eq_collect, Groups.get?_collect, List.foldl_push_eq_append, Array.empty_append]
  rfl

/-- Groups of groups hold, for each text of the dimension, the groups of the rows with that text. -/
theorem toList_groupByTwo :
    (groupByTwo dimension field measure dataset).toList =
      (distinctTexts dimension dataset).map fun k =>
        (k, groupBy field measure (dataset.rowsWith dimension k)) := by
  rw [groupByTwo_eq_collect, Groups.toList_collect, keys_collect_groupKey]
  rfl

end groups

/-! ## What an aggregation returns -/

section outcome

variable {spec : AggregationSpec} {field : String}

/-- Without a second field, or with the same one, nothing is split. -/
theorem splitField?_eq_none (h : spec.colorBy = none ∨ spec.colorBy = some spec.dimension) :
    spec.splitField? = none := by
  rcases h with h | h <;> simp [AggregationSpec.splitField?, h]

/-- A second field other than the dimension splits. -/
theorem splitField?_eq_some (hcolor : spec.colorBy = some field) (hne : field ≠ spec.dimension) :
    spec.splitField? = some field := by
  simp [AggregationSpec.splitField?, hcolor, hne]

/-- Without a second field there is a number for each text of the dimension. -/
theorem aggregate_of_splitField?_none (h : spec.splitField? = none) (dataset : Dataset) :
    aggregate spec dataset = .grouped ⟨spec.dimension, spec.measure,
      (distinctTexts spec.dimension dataset).map fun k =>
        (k, spec.reduced (dataset.rowsWith spec.dimension k))⟩ := by
  simp only [aggregate, h, toList_groupBy, List.map_map]
  rfl

/-- With a second field there is a row for each text of the dimension, and in it a place for each
text of the field. -/
theorem aggregate_of_splitField?_some (h : spec.splitField? = some field) (dataset : Dataset) :
    aggregate spec dataset = .pivoted ⟨spec.dimension, distinctTexts field dataset,
      (distinctTexts spec.dimension dataset).map fun k =>
        (k, (distinctTexts field dataset).map fun name =>
          spec.reduced? ((dataset.rowsWith spec.dimension k).rowsWith field name))⟩ := by
  have hcell : ∀ rows : Dataset, ∀ name,
      ((groupBy field spec.measure rows).get? name).map
          (fun values => spec.aggregator.reduce values.toList) =
        spec.reduced? (rows.rowsWith field name) := by
    intro rows name
    rw [get?_groupBy, AggregationSpec.reduced?]
    split <;> rfl
  simp only [aggregate, h, toList_groupByTwo, List.map_map, Function.comp_def, hcell]

end outcome

/-- The keys of the groups. -/
def Aggregation.keys : Aggregation → List String
  | .grouped g => g.points.map (·.1)
  | .pivoted p => p.rows.map (·.1)

/-- The places of a row of the table with the names of their columns. -/
def PivotedSeries.labelled (p : PivotedSeries) (row : String × List (Option Binary64)) :
    List (String × Option Binary64) :=
  p.series.zip row.2

/-- The names of the columns stand beside the places that were made of them. -/
theorem labelled_map (dimension key : String) (series : List String)
    (rows : List (String × List (Option Binary64))) (f : String → Option Binary64) :
    PivotedSeries.labelled ⟨dimension, series, rows⟩ (key, series.map f) =
      series.map fun name => (name, f name) := by
  have hzip : (series.map id).zip (series.map f) = series.map fun name => (name, f name) :=
    List.zip_map'
  rwa [List.map_id] at hzip

/-- There is no value exactly if there are no rows. -/
theorem reduced?_eq_none_iff {spec : AggregationSpec} {rows : Dataset} :
    spec.reduced? rows = none ↔ rows = [] := by
  unfold AggregationSpec.reduced?
  split <;> simp_all

/-- A value that is there is the reduced one. -/
theorem eq_reduced_of_reduced? {spec : AggregationSpec} {rows : Dataset} {v : Binary64}
    (h : spec.reduced? rows = some v) : v = spec.reduced rows := by
  unfold AggregationSpec.reduced? at h
  split at h
  · cases h
  · exact (Option.some.inj h).symm

/-- The keys of an aggregation are the texts of the dimension, with or without a second field. -/
theorem keys_aggregate (spec : AggregationSpec) (dataset : Dataset) :
    (aggregate spec dataset).keys = distinctTexts spec.dimension dataset := by
  cases h : spec.splitField? with
  | none =>
      rw [aggregate_of_splitField?_none h]
      simp [Aggregation.keys, Function.comp_def]
  | some field =>
      rw [aggregate_of_splitField?_some h]
      simp [Aggregation.keys, Function.comp_def]

/-- **An aggregation without a second field.** There is one number for each text of the dimension,
in order of first appearance. It is made of the rows with that text, which are not none, and all
these rows together are the dataset. -/
theorem aggregate_eq_grouped (spec : AggregationSpec) (dataset : Dataset)
    (h : spec.colorBy = none ∨ spec.colorBy = some spec.dimension) :
    ∃ points, aggregate spec dataset = .grouped ⟨spec.dimension, spec.measure, points⟩ ∧
      (points.map (·.1)).Nodup ∧
      FirstSeen (points.map (·.1)) (dataset.map (·.groupKey spec.dimension)) ∧
      (∀ point ∈ points,
        dataset.rowsWith spec.dimension point.1 ≠ [] ∧
          point.2 = spec.reduced (dataset.rowsWith spec.dimension point.1)) ∧
      (points.flatMap fun point => dataset.rowsWith spec.dimension point.1).Perm dataset := by
  have haggregate := aggregate_of_splitField?_none (splitField?_eq_none h) dataset
  have hseen := firstSeen_distinctTexts spec.dimension dataset
  have hkeys := keys_aggregate spec dataset
  rw [haggregate] at hkeys
  have hpoints := hseen
  rw [← hkeys] at hpoints
  refine ⟨_, haggregate, hpoints.nodup, hpoints, ?_, ?_⟩
  · intro point hpoint
    obtain ⟨k, hk, rfl⟩ := List.mem_map.1 hpoint
    exact ⟨rowsWith_ne_nil spec.dimension dataset hk, rfl⟩
  · rw [List.flatMap_map]
    exact perm_flatMap_filter (fun row : Row => row.groupKey spec.dimension) hseen

/-- Years as numbers and as texts share their groups, and rows without a year have one of their
own. -/
theorem aggregate_years :
    ∃ points, aggregate ⟨"year", "v", .sum, some "year"⟩
        [.ofList [("year", .number (.ofNat 2023)), ("v", .number (.ofNat 1))],
          .ofList [("v", .number (.ofNat 5))],
          .ofList [("year", .text "2023"), ("v", .number (.ofNat 2))]] =
        .grouped ⟨"year", "v", points⟩ ∧
      points.map (·.1) = ["2023", "null"] ∧
      ∀ point ∈ points, point.1 = "2023" → point.2 = .ofNat 3 := by
  obtain ⟨points, haggregate, -, hseen, hvalues, -⟩ :=
    aggregate_eq_grouped ⟨"year", "v", .sum, some "year"⟩
      [.ofList [("year", .number (.ofNat 2023)), ("v", .number (.ofNat 1))],
        .ofList [("v", .number (.ofNat 5))],
        .ofList [("year", .text "2023"), ("v", .number (.ofNat 2))]] (.inr rfl)
  refine ⟨points, haggregate, ?_, ?_⟩
  · exact (hseen.eq (firstSeen_distinctTexts _ _)).trans (by decide +kernel)
  · intro point hpoint hkey
    rw [(hvalues point hpoint).2, hkey]
    decide +kernel

/-- **An aggregation with a second field.** The columns are the texts of that field and the rows
are those of the dimension, in order of first appearance; the rows are the groups that there are
without the second field. Every row has a place for each column. It is empty exactly if no row of
the dataset has both texts, and else it is made of the rows that have them. -/
theorem aggregate_eq_pivoted (spec : AggregationSpec) (dataset : Dataset) {field : String}
    (hcolor : spec.colorBy = some field) (hne : field ≠ spec.dimension) :
    ∃ p, aggregate spec dataset = .pivoted p ∧ p.dimension = spec.dimension ∧
      FirstSeen p.series (dataset.map (·.groupKey field)) ∧
      FirstSeen (p.rows.map (·.1)) (dataset.map (·.groupKey spec.dimension)) ∧
      p.rows.map (·.1) = (aggregate { spec with colorBy := none } dataset).keys ∧
      ∀ entry ∈ p.rows, entry.2.length = p.series.length ∧
        ∀ name cell, (name, cell) ∈ p.labelled entry →
          (cell = none ↔ ∀ row ∈ dataset,
            row.groupKey spec.dimension = entry.1 → row.groupKey field ≠ name) ∧
          ∀ v, cell = some v → v = spec.reduced (dataset.filter fun row =>
            row.groupKey spec.dimension = entry.1 ∧ row.groupKey field = name) := by
  have haggregate := aggregate_of_splitField?_some (splitField?_eq_some hcolor hne) dataset
  have hkeys := keys_aggregate spec dataset
  rw [haggregate] at hkeys
  have hrows := firstSeen_distinctTexts spec.dimension dataset
  rw [← hkeys] at hrows
  refine ⟨_, haggregate, rfl, firstSeen_distinctTexts field dataset, hrows, ?_, ?_⟩
  · rw [keys_aggregate]
    exact hkeys
  · intro entry hentry
    obtain ⟨k, hk, rfl⟩ := List.mem_map.1 hentry
    refine ⟨List.length_map _, ?_⟩
    intro name cell hcell
    rw [labelled_map, List.mem_map] at hcell
    obtain ⟨name, -, heq⟩ := hcell
    obtain ⟨rfl, rfl⟩ := Prod.mk.inj heq
    rw [rowsWith_rowsWith]
    refine ⟨?_, fun v => eq_reduced_of_reduced?⟩
    rw [reduced?_eq_none_iff, List.filter_eq_nil_iff]
    simp only [decide_eq_true_eq, not_and, ne_eq]

/-- Sales by region and product; one amount is no number. -/
def someSales : Dataset :=
  [.ofList [("region", .text "North"), ("product", .text "A"), ("revenue", .number (.ofNat 100))],
    .ofList [("region", .text "North"), ("product", .text "B"), ("revenue", .number (.ofNat 50))],
    .ofList [("region", .text "South"), ("product", .text "A"), ("revenue", .number (.ofNat 80))],
    .ofList [("region", .text "North"), ("product", .text "A"), ("revenue", .text "n/a")]]

/-- Sales split by product: both amounts of one product are summed, and a product that was not sold
in a region has no amount there. -/
theorem aggregate_sales_by_product :
    ∃ p, aggregate ⟨"region", "revenue", .sum, some "product"⟩ someSales = .pivoted p ∧
      p.series = ["A", "B"] ∧ p.rows.map (·.1) = ["North", "South"] ∧
      ∀ entry ∈ p.rows, ∀ cell,
        (entry.1 = "South" → ("B", cell) ∈ p.labelled entry → cell = none) ∧
        (entry.1 = "North" → ("A", cell) ∈ p.labelled entry → cell = some (.ofNat 100)) := by
  obtain ⟨p, haggregate, -, hseries, hrows, -, hcells⟩ :=
    aggregate_eq_pivoted ⟨"region", "revenue", .sum, some "product"⟩ someSales rfl (by decide)
  refine ⟨p, haggregate, ?_, ?_, ?_⟩
  · exact (hseries.eq (firstSeen_distinctTexts _ _)).trans (by decide +kernel)
  · exact (hrows.eq (firstSeen_distinctTexts _ _)).trans (by decide +kernel)
  · intro entry hentry cell
    constructor
    · intro hkey hcell
      rw [((hcells entry hentry).2 _ _ hcell).1, hkey]
      decide +kernel
    · intro hkey hcell
      obtain ⟨hnone, hsome⟩ := (hcells entry hentry).2 _ _ hcell
      rw [hkey] at hnone hsome
      cases cell with
      | none => exact absurd (hnone.1 rfl) (by decide +kernel)
      | some v =>
          rw [hsome v rfl]
          decide +kernel

end Dashboard
