import Dashboard.Proofs.Query.FilterChain
import Dashboard.Proofs.Query.Flattening

/-!
# Query.DrillDown · from a number of a chart to the rows behind it

A chart shows a number for each group of rows. The rows of one group can be asked for in three ways:
by a condition of a widget, by a filter of the dashboard, and by the live value of a filter widget.
All three compare cells with the key by the text that the grouping uses.

* **`Dataset.rowsWith`** are the rows of the group. **`filterRows_equals`**,
  **`filterGlobally_values`** and **`crossFilter_list`**: each of the three ways gives these rows.
* **`aggregate_rowsWith`**: they make up one group, with the number that was shown.
* **`isGroupOf_of_mem_points`** puts these together.
-/

namespace Dashboard

/-! ## Three ways to a group -/

section ways

variable {dataset : Dataset} {field key : String}

/-- A test on rows picks a group if it asks for the text of the group. -/
theorem filter_eq_rowsWith {test : Row → Bool}
    (h : ∀ row, test row = true ↔ row.groupKey field = key) :
    dataset.filter test = dataset.rowsWith field key := by
  apply List.filter_congr
  intro row _
  rw [Bool.eq_iff_iff, h, decide_eq_true_iff]

/-- A condition of equality picks the group. -/
theorem filterRows_equals :
    filterRows [⟨field, .equals, .scalar (.text key)⟩] dataset = dataset.rowsWith field key := by
  rw [filterRows_eq_filter]
  apply filter_eq_rowsWith
  intro row
  rw [List.all_cons, List.all_nil, Bool.and_true]
  exact beq_iff_eq

/-- A filter of the dashboard with the key for its only value picks the group. -/
theorem filterGlobally_values {config : WidgetConfig} (h : config.applyGlobalFilters = true) :
    Board.filterGlobally ⟨"", [⟨field, [key]⟩], none⟩ config dataset =
      dataset.rowsWith field key := by
  rw [Board.filterGlobally, if_pos h, GlobalFilter.apply_eq_filter]
  apply filter_eq_rowsWith
  intro row
  rw [decide_eq_true_iff]
  constructor
  · intro hpasses
    exact List.mem_singleton.1 (hpasses.dynamic _ List.mem_cons_self (List.cons_ne_nil _ _))
  · intro hkey
    refine ⟨?_, ?_, ?_⟩
    · rintro range ⟨⟩
    · intro filter hfilter _
      obtain rfl := List.mem_singleton.1 hfilter
      exact List.mem_singleton.2 hkey
    · intro hsearch
      exact absurd rfl hsearch

/-- A filter widget with the key in its list picks the group, if no other one speaks to the
target. -/
theorem crossFilter_list {target : String} {bindings : List Binding} {emitter : Binding}
    {live : LiveValues} (hmem : emitter ∈ bindings) (hfilter : emitter.isFilter = true)
    (htarget : target ∈ emitter.link.applyTo) (hfield : emitter.link.field? = some field)
    (hlive : live.lookup emitter.id = some (.list [.text key]))
    (hothers : ∀ other ∈ bindings, other ≠ emitter →
      ¬(other.isFilter = true ∧ target ∈ other.link.applyTo)) :
    crossFilter target bindings live dataset = dataset.rowsWith field key := by
  have hconstraint : ∀ constraint, constraint ∈ constraints target bindings live ↔
      constraint = (field, .list [.text key]) := by
    rintro ⟨field', value⟩
    simp only [constraints, List.mem_filterMap, constraint?_eq_some_iff]
    constructor
    · rintro ⟨other, hother, hspeaks, htargets, hvalue, hfield', -⟩
      obtain rfl : other = emitter := by
        by_contra hne
        exact hothers other hother hne ⟨hspeaks, htargets⟩
      rw [hfield] at hfield'
      rw [hlive] at hvalue
      rw [Option.some.inj hfield', Option.some.inj hvalue]
    · rintro ⟨rfl, rfl⟩
      exact ⟨emitter, hmem, hfilter, htarget, hlive, hfield, rfl⟩
  have haccepts : ∀ row : Row, LiveValue.accepts (.list [.text key]) (row.cell field) = true ↔
      row.groupKey field = key := by
    intro row
    rw [LiveValue.accepts, List.isEmpty_cons, Bool.false_or, Cell.isAmong, List.any_cons,
      List.any_nil, Bool.or_false]
    exact beq_iff_eq.trans eq_comm
  rw [crossFilter_eq_filter]
  apply filter_eq_rowsWith
  intro row
  simp only [List.all_eq_true, hconstraint, forall_eq, haccepts]

end ways

/-! ## One group -/

section group

variable {spec : AggregationSpec} {dataset : Dataset} {field key : String} {value : Binary64}

/-- The rows of a group are all of that group. -/
theorem rowsWith_self :
    (dataset.rowsWith field key).rowsWith field key = dataset.rowsWith field key := by
  rw [rowsWith_rowsWith]
  simp only [and_self]
  rfl

/-- The rows of a group have one text. -/
theorem distinctTexts_rowsWith (h : key ∈ distinctTexts field dataset) :
    distinctTexts field (dataset.rowsWith field key) = [key] := by
  apply (firstSeen_distinctTexts field _).eq
  apply firstSeen_singleton
  · rw [ne_eq, List.map_eq_nil_iff]
    exact rowsWith_ne_nil field dataset h
  · intro text htext
    obtain ⟨row, hrow, rfl⟩ := List.mem_map.1 htext
    exact of_decide_eq_true (List.mem_filter.1 hrow).2

/-- The rows of a group alone make up that group. -/
theorem aggregate_rowsWith (hsplit : spec.splitField? = none)
    (hkey : key ∈ distinctTexts spec.dimension dataset) :
    aggregate spec (dataset.rowsWith spec.dimension key) = .grouped ⟨spec.dimension, spec.measure,
      [(key, spec.reduced (dataset.rowsWith spec.dimension key))]⟩ := by
  rw [aggregate_of_splitField?_none hsplit, distinctTexts_rowsWith hkey, List.map_singleton,
    rowsWith_self]

/-- The rows are those of the dataset with the key for their text, in order, and they alone give
the point. -/
structure IsGroupOf (spec : AggregationSpec) (dataset : Dataset) (point : String × Binary64)
    (rows : Dataset) : Prop where
  rows_eq : rows = dataset.filter fun row => row.groupKey spec.dimension = point.1
  aggregate_eq : aggregate spec rows = .grouped ⟨spec.dimension, spec.measure, [point]⟩

/-- **Drilling down agrees with grouping.** For every point of a grouped aggregation, the condition
that the dimension equals the key, the filter of the dashboard by the key, and a filter widget on
the dimension with the key in its list, where no other one speaks to the target, keep exactly the
rows of the group, in order, and aggregating these rows gives the point and no other. -/
theorem isGroupOf_of_mem_points {g : GroupedSeries} (h : aggregate spec dataset = .grouped g)
    {point : String × Binary64} (hpoint : point ∈ g.points) :
    IsGroupOf spec dataset point
      (filterRows [⟨spec.dimension, .equals, .scalar (.text point.1)⟩] dataset) ∧
    (∀ config : WidgetConfig, config.applyGlobalFilters = true →
      IsGroupOf spec dataset point
        (Board.filterGlobally ⟨"", [⟨spec.dimension, [point.1]⟩], none⟩ config dataset)) ∧
    ∀ (target : String) (bindings : List Binding) (live : LiveValues), ∀ emitter ∈ bindings,
      emitter.isFilter = true → target ∈ emitter.link.applyTo →
      emitter.link.field? = some spec.dimension →
      live.lookup emitter.id = some (.list [.text point.1]) →
      (∀ other ∈ bindings, other ≠ emitter →
        ¬(other.isFilter = true ∧ target ∈ other.link.applyTo)) →
      IsGroupOf spec dataset point (crossFilter target bindings live dataset) := by
  have hsplit := splitField?_of_grouped h
  rw [aggregate_of_splitField?_none hsplit] at h
  obtain rfl := Aggregation.grouped.inj h
  obtain ⟨key, hkey, rfl⟩ := List.mem_map.1 hpoint
  have hgroup : IsGroupOf spec dataset (key, spec.reduced (dataset.rowsWith spec.dimension key))
      (dataset.rowsWith spec.dimension key) := ⟨rfl, aggregate_rowsWith hsplit hkey⟩
  refine ⟨?_, ?_, ?_⟩
  · rw [filterRows_equals]
    exact hgroup
  · intro config hconfig
    rw [filterGlobally_values hconfig]
    exact hgroup
  · intro target bindings live emitter hmem hfilter htarget hfield hlive hothers
    rw [crossFilter_list hmem hfilter htarget hfield hlive hothers]
    exact hgroup

end group

/-- Years as numbers and as texts, and rows without a year in three forms. -/
def someYears : Dataset :=
  [.ofList [("year", .number (.ofNat 2023)), ("v", .number (.ofNat 1))],
    .ofList [("v", .number (.ofNat 5))],
    .ofList [("year", .text "2023"), ("v", .number (.ofNat 2))],
    .ofList [("year", .null), ("v", .text "7")],
    .ofList [("year", .text "null"), ("v", .text "n/a")]]

/-- The rows without a year are found in all three ways, whatever form they have. -/
theorem isGroupOf_missing_year :
    ∃ g, aggregate ⟨"year", "v", .sum, none⟩ someYears = .grouped g ∧
      g.points = [("2023", .ofNat 3), ("null", .ofNat 12)] ∧
      IsGroupOf ⟨"year", "v", .sum, none⟩ someYears ("null", .ofNat 12)
        (filterRows [⟨"year", .equals, .scalar (.text "null")⟩] someYears) ∧
      IsGroupOf ⟨"year", "v", .sum, none⟩ someYears ("null", .ofNat 12)
        (Board.filterGlobally ⟨"", [⟨"year", ["null"]⟩], none⟩
          { (default : WidgetConfig) with applyGlobalFilters := true } someYears) ∧
      IsGroupOf ⟨"year", "v", .sum, none⟩ someYears ("null", .ofNat 12)
        (crossFilter "chart" [.filterOn "amounts" "v" ["table"],
            .filterOn "years" "year" ["table", "chart"]]
          [("years", .list [.text "null"]), ("amounts", .text "7")] someYears) := by
  have haggregate : aggregate ⟨"year", "v", .sum, none⟩ someYears = .grouped
      ⟨"year", "v", [("2023", .ofNat 3), ("null", .ofNat 12)]⟩ :=
    (aggregate_of_splitField?_none rfl someYears).trans (by decide +kernel)
  obtain ⟨hcondition, hglobal, hcross⟩ :=
    isGroupOf_of_mem_points haggregate (List.mem_cons_of_mem _ List.mem_cons_self)
  refine ⟨_, haggregate, rfl, hcondition, hglobal _ rfl, ?_⟩
  exact hcross "chart" _ _ (.filterOn "years" "year" ["table", "chart"]) (by decide)
    (by decide +kernel) (by decide) rfl rfl (by decide +kernel)

end Dashboard
