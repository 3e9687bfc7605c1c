import Dashboard.ColumnType
import Dashboard.Formula.Template

/-!
# Transform.RowChange · changes of single rows

* **`RowChange`** names the changes that every row goes through on its own: filled, derived,
  renamed, deleted, split, joined and calculated columns.
* **`RowChange.apply`** is the change of a row.
-/

namespace Dashboard

/-- A part of a date. -/
inductive DatePart where
  | year
  | month
  | day
  | quarter
  | dayOfWeek
  | monthName
deriving DecidableEq, Repr

namespace DatePart

/-- The word for a part. -/
def word : DatePart → String
  | .year => "year"
  | .month => "month"
  | .day => "day"
  | .quarter => "quarter"
  | .dayOfWeek => "dayOfWeek"
  | .monthName => "monthName"

/-- Decodes a part. -/
def decode? {δ : Type} [Document δ] (d : δ) : Option DatePart :=
  Document.choice?
    ([.year, .month, .day, .quarter, .dayOfWeek, .monthName].map fun p => (word p, p)) d

/-- The part of a time as a cell. -/
def ofTimestamp (part : DatePart) (t : Calendar.Timestamp) : Cell :=
  match part with
  | .year => .number (.ofInt t.year)
  | .month => .number (.ofNat t.month)
  | .day => .number (.ofNat t.day)
  | .quarter => .text ("Q" ++ toString ((t.month - 1) / 3 + 1))
  | .dayOfWeek => .text t.weekdayName
  | .monthName => .text t.monthName

/-- The part of the time that a cell stands for; null if it stands for none. -/
def ofCell (part : DatePart) (cell : Cell) : Cell :=
  match cell.date? with
  | some t => part.ofTimestamp t
  | none => .null

/-- The column for a part if none is given. -/
def defaultTarget (part : DatePart) (column : String) : String := column ++ "_" ++ part.word

end DatePart

/-- A change of a row. -/
inductive RowChange where
  /-- Puts a value into a column that is blank or missing. -/
  | fillNull (column : String) (value : Cell)
  /-- Derives a column from a date; the name of the column may be left out. -/
  | extractDate (column : String) (part : DatePart) (target : Option String)
  | rename (old new : String)
  | delete (column : String)
  /-- Splits the text of a column over other columns. -/
  | split (column separator : String) (targets : List String)
  /-- Joins the texts of columns. -/
  | concat (columns : List String) (separator target : String)
  /-- Computes a column from a formula. -/
  | calculated (target formula : String)
deriving DecidableEq

/-- Puts one text after the other into columns; where there are no more texts, the empty text. -/
def Row.insertParts (row : Row) : List String → List (List Char) → Row
  | [], _ => row
  | column :: columns, [] => (row.insert column (.text "")).insertParts columns []
  | column :: columns, part :: parts =>
    (row.insert column (.text (String.ofList part))).insertParts columns parts

namespace RowChange

/-- The column that a date part goes to. -/
def dateTarget (column : String) (part : DatePart) (target : Option String) : String :=
  target.getD (part.defaultTarget column)

/-- The cell of a calculated column: null if the formula has no value. -/
def calculate (formula : String) (row : Row) : Cell :=
  match Formula.evaluateRow formula row with
  | .ok x => .number x
  | .error _ => .null

/-- The changed row. -/
def apply (change : RowChange) (row : Row) : Row :=
  match change with
  | .fillNull column value => if (row.cell column).isBlank then row.insert column value else row
  | .extractDate column part target =>
    row.insert (dateTarget column part target) (part.ofCell (row.cell column))
  | .rename old new => row.rename old new
  | .delete column => row.erase column
  | .split column separator targets =>
    row.insertParts targets
      (Text.split separator.toList (row.cell column).toTextOrEmpty.toList)
  | .concat columns separator target =>
    row.insert target
      (.text (Text.joinStrings separator (columns.map fun c => (row.cell c).toTextOrEmpty)))
  | .calculated target formula => row.insert target (calculate formula row)

end RowChange

end Dashboard
