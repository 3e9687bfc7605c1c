import Dashboard.Dataset

/-!
# Query.Ranking · sorting and limiting

* **`sortRows`** sorts by the total order of cells. Rows with equal cells keep their order, also
  when sorting downwards.
* **`limitRows`** keeps the first rows, or the first in a ranking by a number.
-/

namespace Dashboard

/-- Which end comes first. -/
inductive SortOrder where
  | asc
  | desc
deriving DecidableEq, Repr

namespace SortOrder

instance : Inhabited SortOrder := ⟨.asc⟩

/-- The word for an order. -/
def word : SortOrder → String
  | .asc => "asc"
  | .desc => "desc"

/-- Decodes an order. -/
def decode? {δ : Type} [Document δ] (d : δ) : Option SortOrder :=
  Document.choice? ([.asc, .desc].map fun o => (SortOrder.word o, o)) d

/-- A comparison in this order. -/
def apply (order : SortOrder) (o : Ordering) : Ordering :=
  match order with
  | .asc => o
  | .desc => o.swap

end SortOrder

/-- Which end of a ranking is kept. -/
inductive LimitDirection where
  | top
  | bottom
deriving DecidableEq, Repr

namespace LimitDirection

instance : Inhabited LimitDirection := ⟨.top⟩

/-- The word for a direction. -/
def word : LimitDirection → String
  | .top => "top"
  | .bottom => "bottom"

/-- Decodes a direction. -/
def decode? {δ : Type} [Document δ] (d : δ) : Option LimitDirection :=
  Document.choice? ([.top, .bottom].map fun o => (LimitDirection.word o, o)) d

end LimitDirection

/-- What rows are sorted by: the value or the label of a chart, or a field by name. -/
inductive SortBy where
  | value
  | label
  | field (name : String)
deriving DecidableEq, Repr

namespace SortBy

/-- What a word means: `value`, `label`, or the name of a field. -/
def ofToken (token : String) : SortBy :=
  if token = "value" then .value else if token = "label" then .label else .field token

/-- The word for this. -/
def token : SortBy → String
  | .value => "value"
  | .label => "label"
  | .field name => name

/-- The field to sort by. The label is the first field of the first row, and the value is the
second one unless a field is given. -/
def resolve? (key : SortBy) (first : Row) (field : Option String) : Option String :=
  match key with
  | .value => field.or (first.keyAt? 1)
  | .label => first.keyAt? 0
  | .field name => some name

end SortBy

/-- Stable sorting by a comparison. -/
def sortWith (compare : Row → Row → Ordering) (rows : List Row) : List Row :=
  rows.mergeSort fun a b => (compare a b).isLE

/-- Comparison of two rows by a field. -/
def compareBy (order : SortOrder) (key : String) (a b : Row) : Ordering :=
  order.apply ((a.cell key).order (b.cell key))

/-- Sorts rows; without rows or without a field to sort by they stay as they are. -/
def sortRows (key : SortBy) (order : SortOrder) (field : Option String) (dataset : Dataset) :
    Dataset :=
  match dataset with
  | [] => []
  | first :: rest =>
    match key.resolve? first field with
    | some name => sortWith (compareBy order name) (first :: rest)
    | none => first :: rest

/-- Comparison of two rows by the number of a field: the greater first at the top, the lesser first
at the bottom. -/
def compareRank (direction : LimitDirection) (field : String) (a b : Row) : Ordering :=
  let x := (a.cell field).toNumberOrZero
  let y := (b.cell field).toNumberOrZero
  match direction with
  | .top => y.totalOrder x
  | .bottom => x.totalOrder y

/-- Keeps `count` rows: the first ones, or the first in the ranking by a field. A count that is not
positive keeps all. -/
def limitRows (count : Int) (direction : LimitDirection) (field : Option String)
    (dataset : Dataset) : Dataset :=
  if count ≤ 0 then dataset
  else
    match field with
    | none => dataset.take count.toNat
    | some field => (sortWith (compareRank direction field) dataset).take count.toNat

/-- A sorting of a chart. -/
structure SortSpec where
  key : SortBy
  order : SortOrder
  field : Option String
deriving DecidableEq, Repr

namespace SortSpec

/-- The document of a sorting. -/
def toTree (spec : SortSpec) : Tree :=
  .object ([("by", .text spec.key.token), ("order", .text spec.order.word)] ++
    (spec.field.map fun field => ("field", Tree.text field)).toList)

/-- Decodes a sorting. -/
def decode? {δ : Type} [Document δ] (d : δ) : Option SortSpec := do
  let [token, order, field] ← Document.record? ["by", "order", "field"] d | none
  let token ← Document.required Document.text? token
  let order ← Document.withDefault default SortOrder.decode? order
  let field ← Document.optional Document.text? field
  some ⟨.ofToken token, order, field⟩

/-- Sorts rows by a specification. -/
def apply (spec : SortSpec) (dataset : Dataset) : Dataset :=
  sortRows spec.key spec.order spec.field dataset

end SortSpec

/-- A limit of a chart. -/
structure LimitSpec where
  count : Int
  direction : LimitDirection
  valueField : Option String
deriving DecidableEq, Repr

namespace LimitSpec

/-- The document of a limit. -/
def toTree (spec : LimitSpec) : Tree :=
  .object ([("count", .integer spec.count), ("direction", .text spec.direction.word)] ++
    (spec.valueField.map fun field => ("valueField", Tree.text field)).toList)

/-- Decodes a count that fits 64 bits. -/
def decodeCount? {δ : Type} [Document δ] (d : δ) : Option Int :=
  (Document.integer? d).filter fun i => Binary64.int64Min ≤ i ∧ i ≤ Binary64.int64Max

/-- Decodes a limit. -/
def decode? {δ : Type} [Document δ] (d : δ) : Option LimitSpec := do
  let [count, direction, field] ←
    Document.record? ["count", "direction", "valueField"] d | none
  let count ← Document.required decodeCount? count
  let direction ← Document.withDefault default LimitDirection.decode? direction
  let field ← Document.optional Document.text? field
  some ⟨count, direction, field⟩

/-- Limits rows by a specification. -/
def apply (spec : LimitSpec) (dataset : Dataset) : Dataset :=
  limitRows spec.count spec.direction spec.valueField dataset

end LimitSpec

end Dashboard
