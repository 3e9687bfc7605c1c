import Dashboard.Query.Condition
import Dashboard.Query.Ranking

/-!
# Transform.TableChange · selection and order of rows

* **`RowTest`** names the tests that decide about each row on its own.
* **`TableChange`** names the changes that need the whole table: removal of duplicates, sorting and
  limits. None of them changes a row.
-/

namespace Dashboard

/-- A test that a row has to pass to be kept. -/
inductive RowTest where
  /-- All of some columns are filled. -/
  | filled (columns : List String)
  | meets (condition : Condition)
deriving DecidableEq

/-- Whether a row passes. -/
def RowTest.accepts : RowTest → Row → Bool
  | .filled columns, row => columns.all fun column => !(row.cell column).isBlank
  | .meets condition, row => condition.accepts row

/-- What counts when rows are compared for equality. -/
inductive KeyOrder where
  /-- The cells and the order of the columns. -/
  | preserve
  /-- Only the cells. -/
  | canonical
deriving DecidableEq, Repr

namespace KeyOrder

instance : Inhabited KeyOrder := ⟨.preserve⟩

/-- The word for this. -/
def word : KeyOrder → String
  | .preserve => "preserve"
  | .canonical => "canonical"

/-- Decodes a word. -/
def decode? {δ : Type} [Document δ] (d : δ) : Option KeyOrder :=
  Document.choice? ([.preserve, .canonical].map fun o => (word o, o)) d

/-- The text that equal rows have in common. -/
def key (order : KeyOrder) (row : Row) : String :=
  match order with
  | .preserve => row.toJson
  | .canonical => row.sorted.toJson

end KeyOrder

/-- A change of a table that needs all of its rows. -/
inductive TableChange where
  | removeDuplicates (order : KeyOrder)
  /-- Sorts by a column; blank cells come last in both orders. -/
  | sort (column : String) (order : SortOrder)
  /-- Keeps the first or the last rows. -/
  | limit (count : Nat) (side : LimitDirection)
deriving DecidableEq, Repr

/-- The rows whose key is neither among `seen` nor that of an earlier row. -/
def keepFirst (key : Row → String) : List String → List Row → List Row
  | _, [] => []
  | seen, row :: rest =>
    if key row ∈ seen then keepFirst key seen rest
    else row :: keepFirst key (key row :: seen) rest

/-- Comparison of two rows by a column, where blank cells come last. -/
def compareBlanksLast (order : SortOrder) (column : String) (a b : Row) : Ordering :=
  match (a.cell column).isBlank, (b.cell column).isBlank with
  | true, true => .eq
  | true, false => .gt
  | false, true => .lt
  | false, false => compareBy order column a b

/-- The changed table. -/
def TableChange.apply (change : TableChange) (dataset : Dataset) : Dataset :=
  match change with
  | .removeDuplicates order => keepFirst order.key [] dataset
  | .sort column order => sortWith (compareBlanksLast order column) dataset
  | .limit count .top => dataset.take count
  | .limit count .bottom => dataset.drop (dataset.length - count)

end Dashboard
