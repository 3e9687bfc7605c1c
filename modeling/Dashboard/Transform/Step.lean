import Dashboard.Transform.CellChange
import Dashboard.Transform.RowChange
import Dashboard.Transform.TableChange

/-!
# Transform.Step · the steps of a pipeline

* **`Step`** is one step: a change of cells, of rows or of the table, a selection of rows, or a step
  of an unknown kind, which changes nothing.
* **`Step.run?`** applies a step. It fails only for a pattern that is none, and then whatever the
  rows are.
* **`Step.toTree`** and **`Step.decode?`** write and read a step as an object whose member `type`
  names its kind.
-/

namespace Dashboard

/-- A step of a pipeline. -/
inductive Step where
  /-- Changes the cells of a column in place; rows without the column stay as they are. -/
  | cells (column : String) (change : CellChange)
  /-- Changes every row on its own. -/
  | rows (change : RowChange)
  /-- Keeps the rows that pass a test. -/
  | keep (test : RowTest)
  /-- Changes the table as a whole. -/
  | table (change : TableChange)
  /-- A step of an unknown kind. -/
  | unknown
deriving DecidableEq

namespace Step

instance : Inhabited Step := ⟨.unknown⟩

/-! ## Running -/

/-- The change that a step makes to a table; none if its pattern is no pattern. -/
def change? : Step → Option (Dataset → Dataset)
  | .cells column change =>
    change.apply?.map fun f dataset => dataset.map fun row => row.modify column f
  | .rows change => some fun dataset => dataset.map change.apply
  | .keep test => some fun dataset => dataset.filter test.accepts
  | .table change => some change.apply
  | .unknown => some id

/-- The changed table; none if the pattern of the step is no pattern. -/
def run? (step : Step) (dataset : Dataset) : Option Dataset := step.change?.map (· dataset)

/-- The pattern that a step searches for; empty if it searches for none. -/
def pattern : Step → String
  | .cells _ (.findReplace find _) => find
  | _ => ""

/-- Equality of steps, numbers by value. -/
def same : Step → Step → Bool
  | .rows (.fillNull c v), .rows (.fillNull d w) => c == d && v.same w
  | .keep (.meets a), .keep (.meets b) => a.same b
  | a, b => a == b

/-! ## Documents -/

/-- The word for the kind of a step. -/
def kind : Step → String
  | .cells _ .trim => "trim"
  | .cells _ (.changeCase _) => "changeCase"
  | .cells _ (.findReplace _ _) => "findReplace"
  | .cells _ .removeCurrency => "removeCurrency"
  | .cells _ (.round _) => "round"
  | .cells _ .toNumber => "toNumber"
  | .rows (.fillNull _ _) => "fillNull"
  | .rows (.extractDate _ _ _) => "extractDate"
  | .rows (.rename _ _) => "rename"
  | .rows (.delete _) => "delete"
  | .rows (.split _ _ _) => "split"
  | .rows (.concat _ _ _) => "concat"
  | .rows (.calculated _ _) => "calculated"
  | .keep (.filled _) => "removeNulls"
  | .keep (.meets _) => "filterRows"
  | .table (.removeDuplicates _) => "removeDuplicates"
  | .table (.sort _ _) => "sort"
  | .table (.limit _ _) => "limit"
  | .unknown => "unknown"

/-- The document of a list of strings. -/
def textsTree (texts : List String) : Tree := .list (texts.map .text)

/-- The members of a step besides its kind. -/
def members : Step → List (String × Tree)
  | .cells column change =>
    ("column", .text column) ::
      match change with
      | .changeCase form => [("caseType", .text form.word)]
      | .findReplace find replacement =>
        [("find", .text find), ("replace", .text replacement)]
      | .round decimals => [("decimals", .integer decimals)]
      | _ => []
  | .rows (.fillNull column value) => [("column", .text column), ("value", value.toTree)]
  | .rows (.extractDate column part target) =>
    [("column", .text column), ("part", .text part.word)] ++
      (target.map fun column => ("newCol", Tree.text column)).toList
  | .rows (.rename old new) => [("oldName", .text old), ("newName", .text new)]
  | .rows (.delete column) => [("column", .text column)]
  | .rows (.split column separator targets) =>
    [("column", .text column), ("separator", .text separator), ("newCols", textsTree targets)]
  | .rows (.concat columns separator target) =>
    [("columns", textsTree columns), ("separator", .text separator), ("newCol", .text target)]
  | .rows (.calculated target formula) =>
    [("colName", .text target), ("formula", .text formula)]
  | .keep (.filled columns) => [("columns", textsTree columns)]
  | .keep (.meets condition) =>
    [("column", .text condition.field), ("operator", .text condition.operator.word),
      ("value", condition.target.toTree)]
  | .table (.removeDuplicates order) => [("keyOrder", .text order.word)]
  | .table (.sort column order) => [("column", .text column), ("direction", .text order.word)]
  | .table (.limit count side) => [("count", .integer count), ("from", .text side.word)]
  | .unknown => []

/-- The document of a step. -/
def toTree (step : Step) : Tree := .object (("type", .text step.kind) :: step.members)

/-- The JSON text of a step. -/
def toJson (step : Step) : String := step.toTree.compactText

open Document (record? required withDefault optional text? list? natBelow? count?)

/-- Decodes a list of strings. -/
def texts? (t : Tree) : Option (List String) := list? text? t

/-- Decodes the body of a step that changes cells of a column and has no members of its own. -/
def cells? (change : CellChange) (body : Tree) : Option Step := do
  let [column] ← record? ["column"] body | none
  let column ← required text? column
  some (.cells column change)

/-- Decodes the body of a step that changes cells. -/
def cellStep? (kind : String) (body : Tree) : Option Step :=
  match kind with
  | "trim" => cells? .trim body
  | "changeCase" => do
    let [column, form] ← record? ["column", "caseType"] body | none
    let column ← required text? column
    let form ← required LetterCase.decode? form
    some (.cells column (.changeCase form))
  | "findReplace" => do
    let [column, find, replacement] ← record? ["column", "find", "replace"] body | none
    let column ← required text? column
    let find ← required text? find
    let replacement ← withDefault "" text? replacement
    some (.cells column (.findReplace find replacement))
  | "removeCurrency" => cells? .removeCurrency body
  | "round" => do
    let [column, decimals] ← record? ["column", "decimals"] body | none
    let column ← required text? column
    let decimals ← withDefault 0 (natBelow? (2 ^ (32 : Nat))) decimals
    some (.cells column (.round decimals))
  | "toNumber" => cells? .toNumber body
  | _ => none

/-- Decodes the body of a step that changes rows. -/
def rowStep? (kind : String) (body : Tree) : Option Step :=
  match kind with
  | "fillNull" => do
    let [column, value] ← record? ["column", "value"] body | none
    let column ← required text? column
    let value ← withDefault .null Cell.decode? value
    some (.rows (.fillNull column value))
  | "extractDate" => do
    let [column, part, target] ← record? ["column", "part", "newCol"] body | none
    let column ← required text? column
    let part ← required DatePart.decode? part
    let target ← optional text? target
    some (.rows (.extractDate column part target))
  | "rename" => do
    let [old, new] ← record? ["oldName", "newName"] body | none
    let old ← required text? old
    let new ← required text? new
    some (.rows (.rename old new))
  | "delete" => do
    let [column] ← record? ["column"] body | none
    let column ← required text? column
    some (.rows (.delete column))
  | "split" => do
    let [column, separator, targets] ← record? ["column", "separator", "newCols"] body | none
    let column ← required text? column
    let separator ← required text? separator
    let targets ← required texts? targets
    some (.rows (.split column separator targets))
  | "concat" => do
    let [columns, separator, target] ← record? ["columns", "separator", "newCol"] body | none
    let columns ← required texts? columns
    let separator ← withDefault "" text? separator
    let target ← required text? target
    some (.rows (.concat columns separator target))
  | "calculated" => do
    let [target, formula] ← record? ["colName", "formula"] body | none
    let target ← required text? target
    let formula ← required text? formula
    some (.rows (.calculated target formula))
  | _ => none

/-- Decodes the body of a step that selects or orders rows. -/
def tableStep? (kind : String) (body : Tree) : Option Step :=
  match kind with
  | "removeNulls" => do
    let [columns] ← record? ["columns"] body | none
    let columns ← withDefault [] texts? columns
    some (.keep (.filled columns))
  | "filterRows" => do
    let [column, operator, value] ← record? ["column", "operator", "value"] body | none
    let column ← required text? column
    let operator ← required Operator.decode? operator
    let target ← withDefault default Target.decode? value
    some (.keep (.meets ⟨column, operator, target⟩))
  | "removeDuplicates" => do
    let [order] ← record? ["keyOrder"] body | none
    let order ← withDefault default KeyOrder.decode? order
    some (.table (.removeDuplicates order))
  | "sort" => do
    let [column, order] ← record? ["column", "direction"] body | none
    let column ← required text? column
    let order ← withDefault default SortOrder.decode? order
    some (.table (.sort column order))
  | "limit" => do
    let [count, side] ← record? ["count", "from"] body | none
    let count ← required count? count
    let side ← withDefault default LimitDirection.decode? side
    some (.table (.limit count side))
  | _ => none

/-- The kinds of steps that change cells. -/
def cellKinds : List String :=
  ["trim", "changeCase", "findReplace", "removeCurrency", "round", "toNumber"]

/-- The kinds of steps that change rows. -/
def rowKinds : List String :=
  ["fillNull", "extractDate", "rename", "delete", "split", "concat", "calculated"]

/-- The kinds of steps that select or order rows. -/
def tableKinds : List String :=
  ["removeNulls", "filterRows", "removeDuplicates", "sort", "limit"]

/-- Decodes the body of a step of a kind. The members of a step of an unknown kind do not matter,
but a list of them is refused. -/
def ofBody? (kind : String) (body : Tree) : Option Step :=
  if kind ∈ cellKinds then cellStep? kind body
  else if kind ∈ rowKinds then rowStep? kind body
  else if kind ∈ tableKinds then tableStep? kind body
  else
    match body with
    | .list (_ :: _) => none
    | _ => some .unknown

/-- Decodes a step: an object with a member `type`, or a list that begins with the kind. -/
def decode? {δ : Type} [Document δ] (d : δ) : Option Step :=
  match Document.items? d with
  | some items => do
    let first :: rest ← some items | none
    let kind ← text? first
    let rest ← rest.mapM Document.resolve?
    ofBody? kind (.list rest)
  | none => do
    let [kind] ← Document.fieldsByName? ["type"] d | none
    let kind ← required text? kind
    let body ← Document.others? ["type"] d
    ofBody? kind body

end Step

end Dashboard
