import Dashboard.Dataset

/-!
# Query.Condition · tests on the cells of a row

A condition tests one field of a row. A list of conditions is a conjunction.

* **`Operator`** names the tests; a word that is no operator names the test that every cell passes.
* **`Target`** is what a cell is tested against: one cell or a list of cells.
* **`Operator.test`** is the test, **`Condition.accepts`** the test on a row, **`filterRows`** the
  rows that pass.
-/

namespace Dashboard

/-- The tests on a cell. -/
inductive Operator where
  | equals
  | notEquals
  | contains
  | isIn
  | between
  | gt
  | lt
  | gte
  | lte
  | startsWith
  | isNull
  | notNull
  /-- The test that every cell passes. -/
  | unknown
deriving DecidableEq, Repr

/-- The words for the operators. -/
def Operator.words : List (String × Operator) :=
  [("equals", .equals), ("not_equals", .notEquals), ("contains", .contains), ("in", .isIn),
    ("between", .between), ("gt", .gt), ("lt", .lt), ("gte", .gte), ("lte", .lte),
    ("starts_with", .startsWith), ("is_null", .isNull), ("not_null", .notNull),
    ("unknown", .unknown)]

/-- The word for an operator. -/
def Operator.word : Operator → String
  | .equals => "equals"
  | .notEquals => "not_equals"
  | .contains => "contains"
  | .isIn => "in"
  | .between => "between"
  | .gt => "gt"
  | .lt => "lt"
  | .gte => "gte"
  | .lte => "lte"
  | .startsWith => "starts_with"
  | .isNull => "is_null"
  | .notNull => "not_null"
  | .unknown => "unknown"

/-- The operator of a word. -/
def Operator.ofWord (word : String) : Operator := (Operator.words.lookup word).getD .unknown

/-- Decodes an operator. -/
def Operator.decode? {δ : Type} [Document δ] (d : δ) : Option Operator :=
  (Document.word? d).map Operator.ofWord

/-- What a cell is tested against. -/
inductive Target where
  | scalar (cell : Cell)
  | list (cells : List Cell)
deriving DecidableEq

namespace Target

instance : Inhabited Target := ⟨.scalar .null⟩

/-- The target as a text; the cells of a list are joined by commas, null as nothing. -/
def toText : Target → String
  | .scalar cell => cell.toText
  | .list cells => Text.joinStrings "," (cells.map Cell.toTextOrEmpty)

/-- The target as a number. -/
def toNumber : Target → Binary64
  | .scalar cell => cell.toNumber
  | .list cells => Numeral.strict (toText (.list cells))

/-- The document of a target. -/
def toTree : Target → Tree
  | .scalar cell => cell.toTree
  | .list cells => .list (cells.map Cell.toTree)

/-- The target that a document writes: a list of cells if it is one, else a cell. -/
def ofTree? (t : Tree) : Option Target :=
  match t.items?.bind (·.mapM Cell.ofTree?) with
  | some cells => some (.list cells)
  | none => (Cell.ofTree? t).map .scalar

/-- Decodes a target. -/
def decode? {δ : Type} [Document δ] (d : δ) : Option Target := (Document.resolve? d).bind ofTree?

/-- Equality of targets, numbers by value. -/
def same : Target → Target → Bool
  | .scalar a, .scalar b => a.same b
  | .list as, .list bs => as.length == bs.length && (as.zip bs).all fun p => p.1.same p.2
  | _, _ => false

end Target

/-- Whether a cell has the same text as one of some cells. -/
def Cell.isAmong (cell : Cell) (cells : List Cell) : Bool :=
  cells.any fun c => c.toText == cell.toText

/-- Whether a cell passes the test of an operator against a target. A test that needs a list, or a
list of two, passes every cell if the target is none. -/
def Operator.test (operator : Operator) (cell : Cell) (target : Target) : Bool :=
  match operator with
  | .equals => cell.toText == target.toText
  | .notEquals => cell.toText != target.toText
  | .contains => Text.occurs (Text.lower target.toText.toList) (Text.lower cell.chars)
  | .startsWith => (Text.lower target.toText.toList).isPrefixOf (Text.lower cell.chars)
  | .isIn =>
    match target with
    | .list cells => cell.isAmong cells
    | .scalar _ => true
  | .between =>
    match target with
    | .list [low, high] => cell.atLeast low && cell.atMost high
    | _ => true
  | .gt => target.toNumber.less cell.toNumber
  | .lt => cell.toNumber.less target.toNumber
  | .gte => target.toNumber.atMost cell.toNumber
  | .lte => cell.toNumber.atMost target.toNumber
  | .isNull => cell.isBlank
  | .notNull => !cell.isBlank
  | .unknown => true

/-- A test on a field. -/
structure Condition where
  field : String
  operator : Operator
  target : Target
deriving DecidableEq

namespace Condition

/-- Whether a row passes; a missing field counts as null. -/
def accepts (condition : Condition) (row : Row) : Bool :=
  condition.operator.test (row.cell condition.field) condition.target

/-- The document of a condition. -/
def toTree (condition : Condition) : Tree :=
  .object [("field", .text condition.field), ("condition", .text condition.operator.word),
    ("value", condition.target.toTree)]

/-- Decodes a condition; without a value the target is null. -/
def decode? {δ : Type} [Document δ] (d : δ) : Option Condition := do
  let [field, condition, value] ← Document.record? ["field", "condition", "value"] d | none
  let field ← Document.required Document.text? field
  let operator ← Document.required Operator.decode? condition
  let target ← Document.withDefault default Target.decode? value
  some ⟨field, operator, target⟩

/-- Equality of conditions, numbers by value. -/
def same (a b : Condition) : Bool :=
  a.field == b.field && a.operator == b.operator && a.target.same b.target

end Condition

/-- The rows that pass all conditions; without conditions all of them. -/
def filterRows (conditions : List Condition) (dataset : Dataset) : Dataset :=
  if conditions.isEmpty then dataset
  else dataset.filter fun row => conditions.all (·.accepts row)

end Dashboard
