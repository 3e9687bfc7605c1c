import Dashboard.Dataset

/-!
# Query.GlobalFilter · filters of the whole dashboard

The state of the dashboard's own filters: a date range, filters by texts and a search.

* **`DateRange.contains`** compares texts; an empty or absent bound is open.
* **`Dataset.dateField?`** is the field to which the range applies: the first of the first row with
  `date` or `time` in its name.
* **`GlobalFilter.apply`** passes over the rows for the dates, for each filter and for the search.
-/

namespace Dashboard

/-- A filter by the texts of a field. -/
structure DynamicFilter where
  field : String
  values : List String
deriving DecidableEq, Repr

namespace DynamicFilter

/-- The document of a filter. -/
def toTree (filter : DynamicFilter) : Tree :=
  .object [("field", .text filter.field), ("values", .list (filter.values.map .text))]

/-- Decodes a filter. -/
def decode? {δ : Type} [Document δ] (d : δ) : Option DynamicFilter := do
  let [field, values] ← Document.record? ["field", "values"] d | none
  let field ← Document.required Document.text? field
  let values ← Document.withDefault [] (Document.list? Document.text?) values
  some ⟨field, values⟩

/-- Whether the text of a row's field is among the values. -/
def accepts (filter : DynamicFilter) (row : Row) : Bool :=
  filter.values.any fun value => value == (row.cell filter.field).toText

end DynamicFilter

/-- A range of dates, as texts. -/
structure DateRange where
  start : Option String
  stop : Option String
deriving DecidableEq, Repr

namespace DateRange

/-- The document of a range; absent bounds are left out. -/
def toTree (range : DateRange) : Tree :=
  .object ((range.start.map fun bound => ("start", Tree.text bound)).toList ++
    (range.stop.map fun bound => ("end", Tree.text bound)).toList)

/-- Decodes a range. -/
def decode? {δ : Type} [Document δ] (d : δ) : Option DateRange := do
  let [start, stop] ← Document.record? ["start", "end"] d | none
  let start ← Document.optional Document.text? start
  let stop ← Document.optional Document.text? stop
  some ⟨start, stop⟩

/-- Whether a text lies between the bounds that are neither absent nor empty. -/
def contains (range : DateRange) (text : String) : Bool :=
  (match range.start with
    | some bound => bound.isEmpty || (Text.order bound text).isLE
    | none => true) &&
  (match range.stop with
    | some bound => bound.isEmpty || (Text.order text bound).isLE
    | none => true)

end DateRange

/-- The state of the filters of the whole dashboard. -/
structure GlobalFilter where
  search : String
  dynamic : List DynamicFilter
  dateRange : Option DateRange
deriving DecidableEq, Repr

/-- Whether the lower case form of a string has a text in it. -/
def Text.hasLower (needle : List Char) (s : String) : Bool :=
  Text.occurs needle (Text.lower s.toList)

/-- The first field of the first row with `date` or `time` in its name. -/
def Dataset.dateField? (dataset : Dataset) : Option String :=
  (Dataset.fields dataset).find? fun key =>
    Text.hasLower "date".toList key || Text.hasLower "time".toList key

namespace GlobalFilter

/-- No filter. -/
def empty : GlobalFilter := ⟨"", [], none⟩

instance : Inhabited GlobalFilter := ⟨empty⟩

/-- Whether no filter is set. A date range counts as set even with open bounds. -/
def isEmpty (state : GlobalFilter) : Bool :=
  state.search.isEmpty && state.dynamic.all (·.values.isEmpty) && state.dateRange.isNone

/-- The document of a state. -/
def toTree (state : GlobalFilter) : Tree :=
  .object ([("search", .text state.search),
    ("dynamic", .list (state.dynamic.map DynamicFilter.toTree))] ++
    (state.dateRange.map fun range => ("dateRange", range.toTree)).toList)

/-- Decodes a state. -/
def decode? {δ : Type} [Document δ] (d : δ) : Option GlobalFilter := do
  let [search, dynamic, dateRange] ←
    Document.record? ["search", "dynamic", "dateRange"] d | none
  let search ← Document.withDefault "" Document.text? search
  let dynamic ← Document.withDefault [] (Document.list? DynamicFilter.decode?) dynamic
  let dateRange ← Document.optional DateRange.decode? dateRange
  some ⟨search, dynamic, dateRange⟩

/-- The rows whose date lies in the range; all of them without a range or a date field. -/
def keepDates (state : GlobalFilter) (dateField : Option String) (dataset : Dataset) : Dataset :=
  match state.dateRange, dateField with
  | some range, some field => dataset.filter fun row => range.contains (row.cell field).toText
  | _, _ => dataset

/-- The rows that are left when each filter with values has passed over them. -/
def keepDynamic (state : GlobalFilter) (dataset : Dataset) : Dataset :=
  (state.dynamic.filter (!·.values.isEmpty)).foldl
    (fun rows filter => rows.filter filter.accepts) dataset

/-- Whether the lower case form of one of the cells has a text in it. -/
def matchesSearch (needle : List Char) (row : Row) : Bool :=
  row.cells.any fun cell => Text.hasLower needle cell.toText

/-- The rows with the search text in a cell, without regard to case; all of them without one. -/
def keepFound (state : GlobalFilter) (dataset : Dataset) : Dataset :=
  if state.search.isEmpty then dataset
  else dataset.filter (matchesSearch (Text.lower state.search.toList))

/-- The three passes in turn. The date field is looked up in the dataset as it was. -/
def apply (state : GlobalFilter) (dataset : Dataset) : Dataset :=
  state.keepFound (state.keepDynamic (state.keepDates (Dataset.dateField? dataset) dataset))

end GlobalFilter

end Dashboard
