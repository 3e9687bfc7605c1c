import Dashboard.Query.Aggregation
import Dashboard.Query.Condition
import Dashboard.Query.CrossFilter
import Dashboard.Query.GlobalFilter
import Dashboard.Query.Ranking

/-!
# Query.Widget · the rows that a widget shows

```text
rows → global filter → cross filters → conditions → aggregation → sorting → limit
```

* **`Widget`** holds the configuration of a chart or filter.
* **`Board`** holds all widgets, the state of the global filter and the live values.
* **`Board.prepare`** runs the chain for a widget; **`Board.query?`** finds the widget by its id.
-/

namespace Dashboard

/-- The configuration of a widget. -/
structure WidgetConfig where
  link : Link
  /-- Whether the global filter applies to it. -/
  applyGlobalFilters : Bool
  filters : List Condition
  aggregation : Option AggregationSpec
  sort : Option SortSpec
  limit : Option LimitSpec
deriving DecidableEq

namespace WidgetConfig

instance : Inhabited WidgetConfig := ⟨⟨default, false, [], none, none, none⟩⟩

/-- The document of a configuration; the members of the link come first. -/
def toTree (config : WidgetConfig) : Tree :=
  .object (config.link.toMembers ++
    [("applyGlobalFilters", .bool config.applyGlobalFilters),
      ("filters", .list (config.filters.map Condition.toTree))] ++
    (config.aggregation.map fun spec => ("aggregation", spec.toTree)).toList ++
    (config.sort.map fun spec => ("sort", spec.toTree)).toList ++
    (config.limit.map fun spec => ("limit", spec.toTree)).toList)

/-- The names of the members that do not belong to the link. -/
def names : List String := ["applyGlobalFilters", "filters", "aggregation", "sort", "limit"]

/-- Decodes a configuration. The members of the link stand among the others, and their scalars are
typed before they are read. -/
def decode? {δ : Type} [Document δ] (d : δ) : Option WidgetConfig := do
  let [applyGlobal, filters, aggregation, sort, limit] ← Document.fieldsByName? names d | none
  let applyGlobal ← Document.withDefault false Document.bool? applyGlobal
  let filters ← Document.withDefault [] (Document.list? Condition.decode?) filters
  let aggregation ← Document.optional AggregationSpec.decode? aggregation
  let sort ← Document.optional SortSpec.decode? sort
  let limit ← Document.optional LimitSpec.decode? limit
  let others ← Document.others? names d
  let link ← (Document.fieldsByName? Link.names others).bind Link.ofFields?
  some ⟨link, applyGlobal, filters, aggregation, sort, limit⟩

/-- Equality of configurations, numbers by value. -/
def same (a b : WidgetConfig) : Bool :=
  a.link == b.link && a.applyGlobalFilters == b.applyGlobalFilters &&
    a.filters.length == b.filters.length && ((a.filters.zip b.filters).all fun p => p.1.same p.2) &&
    a.aggregation == b.aggregation && a.sort == b.sort && a.limit == b.limit

end WidgetConfig

/-- A chart or a filter of a dashboard. -/
structure Widget where
  id : String
  kind : String
  config : WidgetConfig
deriving DecidableEq

namespace Widget

/-- A widget without configuration. -/
def plain (id kind : String) : Widget := ⟨id, kind, default⟩

/-- The widget as the broadcast of filters sees it. -/
def binding (widget : Widget) : Binding := ⟨widget.id, widget.kind, widget.config.link⟩

/-- The document of a widget. -/
def toTree (widget : Widget) : Tree :=
  .object [("id", .text widget.id), ("type", .text widget.kind),
    ("config", widget.config.toTree)]

/-- Decodes a widget. -/
def decode? {δ : Type} [Document δ] (d : δ) : Option Widget := do
  let [id, kind, config] ← Document.record? ["id", "type", "config"] d | none
  let id ← Document.required Document.text? id
  let kind ← Document.withDefault "" Document.text? kind
  let config ← Document.withDefault default WidgetConfig.decode? config
  some ⟨id, kind, config⟩

/-- Equality of widgets, numbers by value. -/
def same (a b : Widget) : Bool := a.id == b.id && a.kind == b.kind && a.config.same b.config

end Widget

/-- A dashboard: its filter state, its widgets and their live values. -/
structure Board where
  globalFilter : GlobalFilter
  widgets : List Widget
  live : LiveValues

namespace Board

instance : Inhabited Board := ⟨⟨.empty, [], []⟩⟩

/-- Decodes a dashboard from its fields: the state of the filters, the widgets and the live
values. -/
def ofFields? {δ : Type} [Document δ] (fields : List (Option δ)) : Option Board := do
  let [state, widgets, live] ← some fields | none
  let state ← Document.withDefault default GlobalFilter.decode? state
  let widgets ← Document.withDefault [] (Document.list? Widget.decode?) widgets
  let live ← Document.withDefault [] (Document.map? LiveValue.decode?) live
  some ⟨state, widgets, live⟩

/-- Decodes a dashboard. -/
def decode? {δ : Type} [Document δ] (d : δ) : Option Board :=
  (Document.record? ["global", "widgets", "live"] d).bind ofFields?

/-- The widget with an id, the first one if there are several. -/
def widget? (board : Board) (id : String) : Option Widget := board.widgets.find? (·.id == id)

/-- The global filter, for a widget that asks for it. -/
def filterGlobally (state : GlobalFilter) (config : WidgetConfig) (dataset : Dataset) : Dataset :=
  if config.applyGlobalFilters then state.apply dataset else dataset

/-- The rows that pass all filters of a widget. -/
def filtered (board : Board) (widget : Widget) (dataset : Dataset) : Dataset :=
  filterRows widget.config.filters
    (crossFilter widget.id (board.widgets.map Widget.binding) board.live
      (filterGlobally board.globalFilter widget.config dataset))

/-- Aggregation, sorting and limit of a widget, each only if it is configured. -/
def arrange (config : WidgetConfig) (dataset : Dataset) : Dataset :=
  let grouped := match config.aggregation with
    | some spec => (aggregate spec dataset).toDataset
    | none => dataset
  let sorted := match config.sort with
    | some spec => spec.apply grouped
    | none => grouped
  match config.limit with
  | some spec => spec.apply sorted
  | none => sorted

/-- The rows that a widget shows. -/
def prepare (board : Board) (widget : Widget) (dataset : Dataset) : Dataset :=
  arrange widget.config (board.filtered widget dataset)

/-- The rows that the widget with an id shows. -/
def query? (board : Board) (id : String) (dataset : Dataset) : Option Dataset :=
  (board.widget? id).map fun widget => board.prepare widget dataset

end Board

end Dashboard
