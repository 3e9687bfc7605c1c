import Dashboard.Row
import Dashboard.Tree.Reader

/-!
# Dataset · tables

A dataset is a list of rows, which need not have the same fields. It is read from and written to a
JSON array of objects.
-/

namespace Dashboard

/-- A table: rows in order. -/
abbrev Dataset := List Row

namespace Dataset

/-- The names of the first row. -/
def fields (dataset : Dataset) : List String :=
  match dataset with
  | row :: _ => row.keys
  | [] => []

/-- The document of a dataset: a list of objects. -/
def toTree (dataset : Dataset) : Tree := .list (dataset.map Row.toTree)

/-- Decodes a dataset. -/
def decode? {δ : Type} [Document δ] (d : δ) : Option Dataset := Document.list? Row.decode? d

/-- Reads a dataset from JSON text. -/
def ofJson? (text : String) : Option Dataset := (Tree.ofJson? text).bind decode?

/-- The JSON text of a dataset. -/
def toJson (dataset : Dataset) : String := dataset.toTree.compactText

/-- The indented JSON text of a dataset. -/
def toPrettyJson (dataset : Dataset) : String := dataset.toTree.prettyText

end Dataset

end Dashboard
