import Dashboard.Formula.Expression
import Dashboard.Row
import Dashboard.Text.Search

/-!
# Formula.Template · formulas with references to columns

A formula is the text of an expression in which a name in braces stands for the number in that
column. A brace that is not closed stands for itself.

* **`references`** lists the names, each once; **`substitute`** puts the numbers of a row in their
  place. The two look for braces on their own, from left to right.
* **`evaluateRow`** evaluates the outcome of `substitute`.
-/

namespace Dashboard

namespace Formula

/-- Adds the names in braces to `names`, each once. The first list bounds the number of references:
it need not be longer than the text. -/
def collectNames : List Char → List String → List Char → List String
  | [], names, _ => names
  | _ :: bound, names, s =>
    match Text.splitFirst? '\x7b' s with
    | none => names
    | some (_, after) =>
      match Text.splitFirst? '\x7d' after with
      | none => names
      | some (name, rest) =>
        let name := String.ofList name
        collectNames bound (if name ∈ names then names else names ++ [name]) rest

/-- The names that a formula refers to, each once, in the order of their first occurrence. -/
def references (formula : String) : List String :=
  collectNames formula.toList [] formula.toList

/-- The number that a name stands for in a row; a missing column counts as zero. -/
def valueIn (row : Row) (name : String) : Binary64 :=
  match row.get? name with
  | some cell => cell.toNumberOrZero
  | none => .zero false

/-- Writes a text behind `out`, with the numbers of a row in place of the references. The first list
bounds the number of references: it need not be longer than the text. -/
def writeNumbers (row : Row) : List Char → List Char → List Char → List Char
  | [], out, s => out ++ s
  | _ :: bound, out, s =>
    match Text.splitFirst? '\x7b' s with
    | none => out ++ s
    | some (before, after) =>
      match Text.splitFirst? '\x7d' after with
      | none => out ++ s
      | some (name, rest) =>
        let number := (valueIn row (String.ofList name)).plainChars
        writeNumbers row bound (out ++ before ++ number) rest

/-- A formula with the numbers of a row in place of the references. -/
def substitute (formula : String) (row : Row) : String :=
  String.ofList (writeNumbers row formula.toList [] formula.toList)

/-- The value of a formula in a row. -/
def evaluateRow (formula : String) (row : Row) : Except FormulaError Binary64 :=
  evaluate (substitute formula row)

end Formula

end Dashboard
