import Dashboard.Query.Widget
import Mathlib.Data.List.Basic

/-!
# Query.FilterChain · three filters in a row are one conjunction

The rows of a widget go through the filter of the dashboard, the live values of other widgets and
the conditions of the widget itself. Each of the three has tests that it leaves out because nothing
is set, and the first one looks for its date field before any row is dropped.

* **`GlobalFilter.Passes`**: what the filter of the dashboard asks of a row. Its passes over the rows
  are one filter (**`GlobalFilter.apply_eq_filter`**).
* **`Board.Emits`**: a filter widget speaks to a widget about a field. **`Board.Constrains`**: the
  live value constrains something. Only such values are looked at, which is enough because the
  others accept every cell (`Board.forall_constrains_iff`).
* **`Board.Admits`**: all that is asked of a row. **`prepare_eq_filter`**: without aggregation,
  sorting and limit a widget shows exactly the rows that are admitted, in order and as they are.
-/

namespace Dashboard

/-! ## The filter of the dashboard -/

/-- The name has `date` or `time` in it, in any case. -/
def MentionsDate (key : String) : Prop :=
  "date".toList <:+: Text.lower key.toList ∨ "time".toList <:+: Text.lower key.toList

/-- The field is the first one of the first row that mentions a date. -/
def Dataset.IsDateField (dataset : Dataset) (field : String) : Prop :=
  ∃ first rest before after, dataset = first :: rest ∧ first.keys = before ++ field :: after ∧
    MentionsDate field ∧ ∀ key ∈ before, ¬MentionsDate key

/-- The text stands within the lower case form. -/
theorem Text.hasLower_iff {needle : List Char} {s : String} :
    hasLower needle s = true ↔ needle <:+: lower s.toList :=
  occurs_iff

/-- The field that is found is the date field. -/
theorem dateField?_eq_some_iff {dataset : Dataset} {field : String} :
    dataset.dateField? = some field ↔ dataset.IsDateField field := by
  have hmentions : ∀ key, (Text.hasLower "date".toList key || Text.hasLower "time".toList key) =
      true ↔ MentionsDate key := by
    intro key
    rw [Bool.or_eq_true, Text.hasLower_iff, Text.hasLower_iff]
    rfl
  cases dataset with
  | nil => simp [Dataset.dateField?, Dataset.fields, Dataset.IsDateField]
  | cons first rest =>
      simp only [Dataset.dateField?, Dataset.fields, List.find?_eq_some_iff_append, hmentions,
        Bool.not_eq_true', Bool.eq_false_iff, ne_eq]
      constructor
      · rintro ⟨hfield, before, after, hkeys, hbefore⟩
        exact ⟨first, rest, before, after, rfl, hkeys, hfield, hbefore⟩
      · rintro ⟨_, _, before, after, hdataset, hkeys, hfield, hbefore⟩
        obtain ⟨rfl, rfl⟩ := List.cons.inj hdataset
        exact ⟨hfield, before, after, hkeys, hbefore⟩

/-- What the filter of the dashboard asks of a row of a dataset: the date lies in the range, if
there is a range and a date field; the text of every filtered field is among the values, if there
are any; and the search text, if there is one, stands in some cell. -/
structure GlobalFilter.Passes (state : GlobalFilter) (dataset : Dataset) (row : Row) : Prop where
  date : ∀ range, state.dateRange = some range → ∀ field, dataset.IsDateField field →
    range.contains (row.cell field).toText = true
  dynamic : ∀ filter ∈ state.dynamic, filter.values ≠ [] →
    (row.cell filter.field).toText ∈ filter.values
  search : state.search ≠ "" → ∃ cell ∈ row.cells,
    Text.lower state.search.toList <:+: Text.lower cell.toText.toList

namespace GlobalFilter

variable {state : GlobalFilter} {dataset : Dataset} {row : Row}

/-- Whether a row passes the date range; without a date field every row does. -/
def acceptsDate (state : GlobalFilter) (dateField : Option String) (row : Row) : Bool :=
  match state.dateRange, dateField with
  | some range, some field => range.contains (row.cell field).toText
  | _, _ => true

/-- Whether a row passes the filters that have values. -/
def acceptsDynamic (state : GlobalFilter) (row : Row) : Bool :=
  (state.dynamic.filter (!·.values.isEmpty)).all (·.accepts row)

/-- Whether the search text stands in one of the cells, without regard to case. -/
def acceptsSearch (state : GlobalFilter) (row : Row) : Bool :=
  state.search.isEmpty || matchesSearch (Text.lower state.search.toList) row

/-- The pass for the dates asks for a date in the range. -/
theorem acceptsDate_iff : state.acceptsDate dataset.dateField? row = true ↔
    ∀ range, state.dateRange = some range → ∀ field, dataset.IsDateField field →
      range.contains (row.cell field).toText = true := by
  simp only [← dateField?_eq_some_iff]
  unfold acceptsDate
  cases state.dateRange <;> cases dataset.dateField? <;> simp

/-- The passes of the filters ask for one of the values of each. -/
theorem acceptsDynamic_iff : state.acceptsDynamic row = true ↔
    ∀ filter ∈ state.dynamic, filter.values ≠ [] →
      (row.cell filter.field).toText ∈ filter.values := by
  simp [acceptsDynamic, DynamicFilter.accepts, or_iff_not_imp_left]

/-- The pass for the search asks for a cell with the text. -/
theorem acceptsSearch_iff : state.acceptsSearch row = true ↔
    (state.search ≠ "" → ∃ cell ∈ row.cells,
      Text.lower state.search.toList <:+: Text.lower cell.toText.toList) := by
  rw [acceptsSearch, matchesSearch, Bool.or_eq_true, String.isEmpty_iff, List.any_eq_true,
    or_iff_not_imp_left]
  simp only [Text.hasLower_iff]

/-- The three passes ask for what a row has to pass. -/
theorem passes_iff : (state.acceptsDate dataset.dateField? row && state.acceptsDynamic row &&
    state.acceptsSearch row) = true ↔ state.Passes dataset row := by
  rw [Bool.and_eq_true, Bool.and_eq_true, acceptsDate_iff, acceptsDynamic_iff, acceptsSearch_iff]
  exact ⟨fun ⟨⟨hdate, hdynamic⟩, hsearch⟩ => ⟨hdate, hdynamic, hsearch⟩,
    fun h => ⟨⟨h.date, h.dynamic⟩, h.search⟩⟩

instance : Decidable (state.Passes dataset row) := decidable_of_iff _ passes_iff

/-- The pass for the dates tests each row, if there is anything to test. -/
theorem keepDates_eq_filter (state : GlobalFilter) (dateField : Option String)
    (dataset : Dataset) :
    state.keepDates dateField dataset = dataset.filter (state.acceptsDate dateField) := by
  obtain ⟨search, dynamic, dateRange⟩ := state
  cases dateRange with
  | none => exact (List.filter_eq_self.2 fun _ _ => rfl).symm
  | some range =>
      cases dateField with
      | none => exact (List.filter_eq_self.2 fun _ _ => rfl).symm
      | some field => rfl

/-- The passes of the filters with values, one after the other, test each row for all of them. -/
theorem keepDynamic_eq_filter (state : GlobalFilter) (dataset : Dataset) :
    state.keepDynamic dataset = dataset.filter state.acceptsDynamic := by
  unfold keepDynamic acceptsDynamic
  induction state.dynamic.filter (!·.values.isEmpty) generalizing dataset with
  | nil => exact (List.filter_eq_self.2 fun _ _ => rfl).symm
  | cons filter rest ih =>
      rw [List.foldl_cons, ih, List.filter_filter]
      apply List.filter_congr
      intro row _
      rw [List.all_cons, Bool.and_comm]

/-- The pass for the search tests each row, if there is anything to find. -/
theorem keepFound_eq_filter (state : GlobalFilter) (dataset : Dataset) :
    state.keepFound dataset = dataset.filter state.acceptsSearch := by
  unfold keepFound acceptsSearch
  cases state.search.isEmpty with
  | true => exact (List.filter_eq_self.2 fun _ _ => rfl).symm
  | false => rfl

/-- The three passes in turn are one. -/
theorem apply_eq_filter_accepts (state : GlobalFilter) (dataset : Dataset) :
    state.apply dataset = dataset.filter fun row =>
      state.acceptsDate dataset.dateField? row && state.acceptsDynamic row &&
        state.acceptsSearch row := by
  rw [apply, keepFound_eq_filter, keepDynamic_eq_filter, keepDates_eq_filter, List.filter_filter,
    List.filter_filter]
  apply List.filter_congr
  intro row _
  ac_rfl

/-- The passes keep the rows that pass. -/
theorem apply_eq_filter (state : GlobalFilter) (dataset : Dataset) :
    state.apply dataset = dataset.filter (state.Passes dataset ·) := by
  rw [apply_eq_filter_accepts]
  apply List.filter_congr
  intro row _
  rw [Bool.eq_iff_iff, passes_iff, decide_eq_true_iff]

end GlobalFilter

/-! ## Conditions -/

/-- Conditions test each row, if there are any. -/
theorem filterRows_eq_filter (conditions : List Condition) (dataset : Dataset) :
    filterRows conditions dataset = dataset.filter fun row => conditions.all (·.accepts row) := by
  cases conditions with
  | nil => exact (List.filter_eq_self.2 fun _ _ => rfl).symm
  | cons condition rest => rfl

/-! ## Live values -/

/-- Constraints test each row, if there are any. -/
theorem crossFilter_eq_filter (target : String) (bindings : List Binding) (live : LiveValues)
    (dataset : Dataset) :
    crossFilter target bindings live dataset = dataset.filter fun row =>
      (constraints target bindings live).all fun (field, value) =>
        value.accepts (row.cell field) := by
  unfold crossFilter
  cases constraints target bindings live with
  | nil => exact (List.filter_eq_self.2 fun _ _ => rfl).symm
  | cons constraint rest => rfl

/-- A live value that constrains nothing accepts every cell. -/
theorem LiveValue.accepts_of_isUnconstrained {value : LiveValue}
    (h : value.isUnconstrained = true) (cell : Cell) : value.accepts cell = true := by
  cases value with
  | toggle on =>
      cases on with
      | false => rfl
      | true => cases h
  | text wanted =>
      rw [accepts, Bool.or_eq_true]
      exact .inl h
  | list cells =>
      rw [accepts, Bool.or_eq_true]
      exact .inl h
  | range bounds => cases h
  | numericRange bounds => cases h
  | other tree => rfl

/-- A binding targets the widgets that it applies to. -/
theorem Binding.targets_iff {binding : Binding} {id : String} :
    binding.targets id = true ↔ id ∈ binding.link.applyTo := by
  rw [targets, List.any_beq', List.contains_iff_mem]

/-- A binding constrains a target by a field and a live value if it is a filter on that field that
names the target, and the value constrains something. -/
theorem constraint?_eq_some_iff {target field : String} {live : LiveValues} {binding : Binding}
    {value : LiveValue} :
    constraint? target live binding = some (field, value) ↔
      binding.isFilter = true ∧ target ∈ binding.link.applyTo ∧
        live.lookup binding.id = some value ∧ binding.link.field? = some field ∧
        value.isUnconstrained = false := by
  rw [constraint?, ← Binding.targets_iff, ← and_assoc, ← Bool.and_eq_true]
  split
  · rename_i hspeaks
    simp only [hspeaks, true_and, Option.bind_eq_bind, Option.bind_eq_some_iff,
      Option.ite_none_left_eq_some, Option.some.injEq, Prod.mk.injEq, Bool.not_eq_true]
    constructor
    · rintro ⟨_, hvalue, _, hfield, hconstrains, rfl, rfl⟩
      exact ⟨hvalue, hfield, hconstrains⟩
    · rintro ⟨hvalue, hfield, hconstrains⟩
      exact ⟨_, hvalue, _, hfield, hconstrains, rfl, rfl⟩
  · rename_i hspeaks
    simp [hspeaks]

/-- A filter widget that names another widget among its targets. -/
def Widget.SpeaksTo (widget : Widget) (id : String) : Prop :=
  "filter".toList <:+: Text.lower widget.kind.toList ∧ id ∈ widget.config.link.applyTo

namespace Board

variable {board : Board} {id field : String} {value : LiveValue} {row : Row}

/-- A filter widget of the board speaks to the widget `id`. It is on the field and has the live
value. -/
def Emits (board : Board) (id field : String) (value : LiveValue) : Prop :=
  ∃ emitter ∈ board.widgets, emitter.SpeaksTo id ∧ board.live.lookup emitter.id = some value ∧
    emitter.config.link.field? = some field

/-- A live value that is emitted to the widget `id` constrains something. -/
def Constrains (board : Board) (id field : String) (value : LiveValue) : Prop :=
  board.Emits id field value ∧ value.isUnconstrained = false

/-- The constraints are the live values that constrain the widget. -/
theorem mem_constraints_iff :
    (field, value) ∈ constraints id (board.widgets.map Widget.binding) board.live ↔
      board.Constrains id field value := by
  have hkind : ∀ emitter : Widget, emitter.binding.isFilter = true ↔
      "filter".toList <:+: Text.lower emitter.kind.toList := fun _ => Text.occurs_iff
  simp only [constraints, List.mem_filterMap, List.mem_map, exists_exists_and_eq_and,
    constraint?_eq_some_iff, hkind]
  constructor
  · rintro ⟨emitter, hmem, hfilter, htarget, hvalue, hfield, hconstrains⟩
    exact ⟨⟨emitter, hmem, ⟨hfilter, htarget⟩, hvalue, hfield⟩, hconstrains⟩
  · rintro ⟨⟨emitter, hmem, ⟨hfilter, htarget⟩, hvalue, hfield⟩, hconstrains⟩
    exact ⟨emitter, hmem, hfilter, htarget, hvalue, hfield, hconstrains⟩

/-- The live values that constrain something decide about all that are emitted. -/
theorem forall_constrains_iff :
    (∀ field value, board.Constrains id field value → value.accepts (row.cell field) = true) ↔
      ∀ field value, board.Emits id field value → value.accepts (row.cell field) = true := by
  constructor
  · intro hall field value hemits
    cases hconstrains : value.isUnconstrained with
    | true => exact LiveValue.accepts_of_isUnconstrained hconstrains _
    | false => exact hall field value ⟨hemits, hconstrains⟩
  · intro hall field value hconstrains
    exact hall field value hconstrains.1

/-- The constraints accept a row exactly if all emitted live values do. -/
theorem all_constraints_iff :
    ((constraints id (board.widgets.map Widget.binding) board.live).all fun (field, value) =>
        value.accepts (row.cell field)) = true ↔
      ∀ field value, board.Emits id field value → value.accepts (row.cell field) = true := by
  simp only [List.all_eq_true, Prod.forall, mem_constraints_iff, forall_constrains_iff]

/-! ## The whole chain -/

/-- What a widget asks of a row of a dataset: that it passes the filter of the dashboard, if the
widget wants it; that every live value that is emitted to the widget accepts the cell of its field;
and that it passes the conditions of the widget. -/
structure Admits (board : Board) (widget : Widget) (dataset : Dataset) (row : Row) : Prop where
  globally : widget.config.applyGlobalFilters = true → board.globalFilter.Passes dataset row
  across : ∀ field value, board.Emits widget.id field value →
    value.accepts (row.cell field) = true
  locally : ∀ condition ∈ widget.config.filters, condition.accepts row = true

variable {widget : Widget} {dataset : Dataset}

/-- The tests of the three filters are what is asked of a row. -/
theorem admits_iff : ((!widget.config.applyGlobalFilters ||
      decide (board.globalFilter.Passes dataset row)) &&
    ((constraints widget.id (board.widgets.map Widget.binding) board.live).all
      fun (field, value) => value.accepts (row.cell field)) &&
    widget.config.filters.all (·.accepts row)) = true ↔ board.Admits widget dataset row := by
  rw [Bool.and_eq_true, Bool.and_eq_true, all_constraints_iff, List.all_eq_true]
  have hglobal : (!widget.config.applyGlobalFilters ||
      decide (board.globalFilter.Passes dataset row)) = true ↔
      (widget.config.applyGlobalFilters = true → board.globalFilter.Passes dataset row) := by
    cases widget.config.applyGlobalFilters <;> simp
  rw [hglobal]
  exact ⟨fun ⟨⟨hglobally, hacross⟩, hlocally⟩ => ⟨hglobally, hacross, hlocally⟩,
    fun h => ⟨⟨h.globally, h.across⟩, h.locally⟩⟩

instance : Decidable (board.Admits widget dataset row) := decidable_of_iff _ admits_iff

/-- The three filters one after the other keep the rows that are admitted. -/
theorem filtered_eq_filter (board : Board) (widget : Widget) (dataset : Dataset) :
    board.filtered widget dataset = dataset.filter (board.Admits widget dataset ·) := by
  have hglobal : filterGlobally board.globalFilter widget.config dataset = dataset.filter fun row =>
      !widget.config.applyGlobalFilters || decide (board.globalFilter.Passes dataset row) := by
    rw [filterGlobally]
    cases widget.config.applyGlobalFilters <;> simp [GlobalFilter.apply_eq_filter]
  rw [filtered, filterRows_eq_filter, crossFilter_eq_filter, hglobal, List.filter_filter,
    List.filter_filter]
  apply List.filter_congr
  intro row _
  rw [Bool.eq_iff_iff, decide_eq_true_iff, ← admits_iff, ← Bool.eq_iff_iff]
  ac_rfl

/-- **The chain of filters is one conjunction.** Without aggregation, sorting and limit a widget
shows exactly the rows that are admitted: those that pass the filter of the dashboard, if it applies
to the widget, every live value that is emitted to the widget, and every condition of its own. They
come in the order of the dataset, unchanged. -/
theorem prepare_eq_filter (board : Board) (widget : Widget) (dataset : Dataset)
    (haggregation : widget.config.aggregation = none) (hsort : widget.config.sort = none)
    (hlimit : widget.config.limit = none) :
    board.prepare widget dataset = dataset.filter (board.Admits widget dataset ·) := by
  rw [prepare, filtered_eq_filter, arrange, haggregation, hsort, hlimit]

end Board

/-- Orders of different shapes: a number as a text, a missing date, a missing amount. -/
def someOrders : Dataset :=
  [.ofList [("Order_Date", .text "2024-01-05"), ("region", .text "North"),
      ("amount", .number (.ofNat 120))],
    .ofList [("region", .text "North"), ("amount", .number (.ofNat 75))],
    .ofList [("Order_Date", .text "2024-02-10"), ("region", .text "Northeast"),
      ("amount", .text "40")],
    .ofList [("Order_Date", .text "2024-03-15"), ("region", .text "South")]]

/-- A chart that asks for an amount below 200. -/
def someChart : Widget :=
  ⟨"chart", "barChart", { (default : WidgetConfig) with
    applyGlobalFilters := true, filters := [⟨"amount", .lt, .scalar (.number (.ofNat 200))⟩] }⟩

/-- A filter widget on a field that names the chart. -/
def chartFilter (id kind field : String) : Widget :=
  ⟨id, kind, { (default : WidgetConfig) with link := ⟨["chart"], some field, none⟩ }⟩

/-- A board with a date range and two filters for the chart, one of them switched off. -/
def someBoard : Board where
  globalFilter := ⟨"", [⟨"region", []⟩], some ⟨some "2024-01-01", some "2024-12-31"⟩⟩
  widgets := [someChart, chartFilter "regions" "textFilter" "region",
    chartFilter "members" "toggleFilter" "vip"]
  live := [("regions", .text "north"), ("members", .toggle false)]

/-- The chart shows two of the orders: one has no date, and one is from another region. -/
theorem prepare_chart_orders :
    someBoard.prepare someChart someOrders =
        someOrders.filter (someBoard.Admits someChart someOrders ·) ∧
      someBoard.prepare someChart someOrders = [someOrders[0], someOrders[2]] :=
  ⟨Board.prepare_eq_filter someBoard someChart someOrders rfl rfl rfl, by decide +kernel⟩

end Dashboard
