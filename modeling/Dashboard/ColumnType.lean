import Dashboard.Calendar.Layout
import Dashboard.Dataset

/-!
# ColumnType · the types of columns

The type of a column is inferred from the rows at the head of a dataset, the sample.

* **`Cell.date?`** reads a cell as a time: a number counts milliseconds from 1970.
* **`classify`** finds the type of a list of cells.
* **`ColumnType.infer`** gives each field of the sample its type, in the order in which the fields
  first appear.
-/

namespace Dashboard

/-- The time that a cell stands for. -/
def Cell.date? : Cell → Option Calendar.Timestamp
  | .number x => if x.isFinite then Calendar.Timestamp.ofEpochMillis? x.toInt64 else none
  | .text s => Calendar.read? s
  | _ => none

/-- Whether a cell is a number or a text that reads as one. -/
def Cell.isNumeric : Cell → Bool
  | .number x => !x.isNaN
  | .text s => !(Numeral.strict s).isNaN
  | _ => false

/-- The type of a column. -/
inductive ColumnType where
  | number
  | date
  | text
deriving DecidableEq, Repr

namespace ColumnType

/-- The word for a type. -/
def word : ColumnType → String
  | .number => "number"
  | .date => "date"
  | .text => "text"

/-- The type of a list of cells that are not blank: the first of number and date that fits all of
them, otherwise text. No cells make a text column. -/
def classify (cells : List Cell) : ColumnType :=
  if cells.isEmpty then .text
  else if cells.all Cell.isNumeric then .number
  else if cells.all fun c => c.date?.isSome then .date
  else .text

/-- The names of the fields of some rows, each once, in the order in which they first appear. -/
def fieldNames (rows : List Row) : List String :=
  (rows.flatMap Row.keys).foldl (fun names key => if key ∈ names then names else names ++ [key]) []

/-- The cells of a column that are not blank. -/
def filledCells (rows : List Row) (field : String) : List Cell :=
  (rows.map (·.cell field)).filter (!·.isBlank)

/-- How many rows are sampled unless the settings say otherwise. -/
def defaultSample : Nat := 20

/-- The fields of the first `sample` rows with their types. -/
def infer (dataset : Dataset) (sample : Nat) : List (String × ColumnType) :=
  let rows := dataset.take sample
  (fieldNames rows).map fun field => (field, classify (filledCells rows field))

/-- The document of inferred types: an object from names to words. -/
def toTree (types : List (String × ColumnType)) : Tree :=
  .object (types.map fun t => (t.1, .text t.2.word))

end ColumnType

end Dashboard
