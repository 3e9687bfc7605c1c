import Dashboard.Dataset
import Dashboard.Query.Grouping

/-!
# Query.Aggregation · groups of rows reduced to numbers

A dataset is grouped by the text of a dimension, and the numbers of a measure are reduced in each
group.

* **`Aggregator.reduce`** makes one number of a list of numbers.
* **`Aggregation`** is the outcome: one number for each group, or, split by a second field, a table
  with a column for each text of that field.
* **`aggregate`** computes it and **`Aggregation.toDataset`** makes rows of it.
-/

namespace Dashboard

/-- The ways to reduce numbers. -/
inductive Aggregator where
  | sum
  | average
  | count
  | min
  | max
deriving DecidableEq, Repr

namespace Aggregator

instance : Inhabited Aggregator := ⟨.sum⟩

/-- The word for an aggregator. -/
def word : Aggregator → String
  | .sum => "sum"
  | .average => "average"
  | .count => "count"
  | .min => "min"
  | .max => "max"

/-- The words for the aggregators. -/
def words : List (String × Aggregator) :=
  [.sum, .average, .count, .min, .max].map fun a => (a.word, a)

/-- Decodes an aggregator. -/
def decode? {δ : Type} [Document δ] (d : δ) : Option Aggregator := Document.choice? words d

/-- Reduces numbers to one. The average of none is zero, and the least of none is infinite. -/
def reduce (aggregator : Aggregator) (values : List Binary64) : Binary64 :=
  match aggregator with
  | .sum => Binary64.sum values
  | .average =>
    if values.isEmpty then .zero false else Binary64.sum values / Binary64.ofNat values.length
  | .count => .ofNat values.length
  | .min => values.foldl Binary64.min (.infinite false)
  | .max => values.foldl Binary64.max (.infinite true)

end Aggregator

/-- What is grouped by what. -/
structure AggregationSpec where
  /-- The field whose texts make the groups. -/
  dimension : String
  /-- The field whose numbers are reduced. -/
  measure : String
  /-- How they are reduced. -/
  aggregator : Aggregator
  /-- A second field that splits the groups. -/
  colorBy : Option String
deriving DecidableEq, Repr

namespace AggregationSpec

/-- The field that splits the groups, unless it is the dimension itself. -/
def splitField? (spec : AggregationSpec) : Option String :=
  spec.colorBy.filter (· ≠ spec.dimension)

/-- The document of a specification. -/
def toTree (spec : AggregationSpec) : Tree :=
  .object ([("dimension", .text spec.dimension), ("measure", .text spec.measure),
    ("aggregator", .text spec.aggregator.word)] ++
    (spec.colorBy.map fun field => ("colorBy", Tree.text field)).toList)

/-- Decodes a specification; without an aggregator it sums. -/
def decode? {δ : Type} [Document δ] (d : δ) : Option AggregationSpec := do
  let [dimension, measure, aggregator, colorBy] ←
    Document.record? ["dimension", "measure", "aggregator", "colorBy"] d | none
  let dimension ← Document.required Document.text? dimension
  let measure ← Document.required Document.text? measure
  let aggregator ← Document.withDefault default Aggregator.decode? aggregator
  let colorBy ← Document.optional Document.text? colorBy
  some ⟨dimension, measure, aggregator, colorBy⟩

end AggregationSpec

/-- One number for each group. -/
structure GroupedSeries where
  dimension : String
  measure : String
  /-- The keys of the groups with their numbers. -/
  points : List (String × Binary64)
deriving DecidableEq

/-- One number for each group and each part of it that has rows. -/
structure PivotedSeries where
  dimension : String
  /-- The names of the columns. -/
  series : List String
  /-- The keys of the groups with one place for each column. -/
  rows : List (String × List (Option Binary64))
deriving DecidableEq

/-- The outcome of an aggregation. -/
inductive Aggregation where
  | grouped (series : GroupedSeries)
  | pivoted (series : PivotedSeries)
deriving DecidableEq

/-- The rows of grouped numbers: the key under the dimension, the number under the measure. -/
def GroupedSeries.toDataset (g : GroupedSeries) : Dataset :=
  g.points.map fun (key, value) =>
    (Row.empty.insert g.dimension (.text key)).insert g.measure (.number value)

/-- The rows of a split table: the key under the dimension, then the numbers that are there under
the names of their columns. -/
def PivotedSeries.toDataset (p : PivotedSeries) : Dataset :=
  p.rows.map fun (key, cells) =>
    (p.series.zip cells).foldl
      (fun row (name, cell) =>
        match cell with
        | some value => row.insert name (.number value)
        | none => row)
      (Row.empty.insert p.dimension (.text key))

namespace Aggregation

/-- The rows of an aggregation. -/
def toDataset : Aggregation → Dataset
  | .grouped g => g.toDataset
  | .pivoted p => p.toDataset

/-- How many groups there are. -/
def size : Aggregation → Nat
  | .grouped g => g.points.length
  | .pivoted p => p.rows.length

/-- The document of an aggregation; all numbers are written with a point or an exponent. -/
def toTree : Aggregation → Tree
  | .grouped g =>
    .object [("shape", .text "grouped"), ("dimension", .text g.dimension),
      ("measure", .text g.measure),
      ("points", .list (g.points.map fun (key, value) => .list [.text key, .real value]))]
  | .pivoted p =>
    .object [("shape", .text "pivoted"), ("dimension", .text p.dimension),
      ("series", .list (p.series.map .text)),
      ("rows", .list (p.rows.map fun (key, cells) =>
        .list [.text key, .list (cells.map fun cell => (cell.map Tree.real).getD .null)]))]

end Aggregation

/-- The text by which a row is grouped. -/
def Row.groupKey (row : Row) (field : String) : String := (row.cell field).toText

/-- The number that a row contributes. -/
def Row.measured (row : Row) (field : String) : Binary64 := (row.cell field).toNumberOrZero

/-- The numbers of a measure by the texts of a dimension. -/
def groupBy (dimension measure : String) (dataset : Dataset) : Groups (Array Binary64) :=
  dataset.foldl
    (fun groups row =>
      groups.update (row.groupKey dimension) #[] (·.push (row.measured measure)))
    .empty

/-- The numbers of a measure by the texts of a dimension and of a second field. -/
def groupByTwo (dimension field measure : String) (dataset : Dataset) :
    Groups (Groups (Array Binary64)) :=
  dataset.foldl
    (fun groups row =>
      groups.update (row.groupKey dimension) .empty fun parts =>
        parts.update (row.groupKey field) #[] (·.push (row.measured measure)))
    .empty

/-- The texts of a field, each once, in the order in which they first appear. -/
def distinctTexts (field : String) (dataset : Dataset) : List String :=
  dataset.foldl
    (fun texts row =>
      if row.groupKey field ∈ texts then texts else texts ++ [row.groupKey field])
    []

/-- Groups a dataset and reduces each group. -/
def aggregate (spec : AggregationSpec) (dataset : Dataset) : Aggregation :=
  match spec.splitField? with
  | some field =>
    let series := distinctTexts field dataset
    let groups := groupByTwo spec.dimension field spec.measure dataset
    .pivoted
      { dimension := spec.dimension
        series
        rows := groups.toList.map fun (key, parts) =>
          (key, series.map fun name =>
            (parts.get? name).map fun values => spec.aggregator.reduce values.toList) }
  | none =>
    let groups := groupBy spec.dimension spec.measure dataset
    .grouped
      { dimension := spec.dimension
        measure := spec.measure
        points := groups.toList.map fun (key, values) =>
          (key, spec.aggregator.reduce values.toList) }

end Dashboard
