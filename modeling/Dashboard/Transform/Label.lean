import Dashboard.Transform.Step

/-!
# Transform.Label · steps in words

**`Step.label`** says in a line what a step does.
-/

namespace Dashboard

/-- A text in single quotes. -/
def inQuotes (s : String) : String := "'" ++ s ++ "'"

/-- Texts in single quotes with commas between them. -/
def inQuotesAll (texts : List String) : String := Text.joinStrings ", " (texts.map inQuotes)

/-- The name of an operator in labels. -/
def Operator.title : Operator → String
  | .equals => "Equals"
  | .notEquals => "NotEquals"
  | .contains => "Contains"
  | .isIn => "In"
  | .between => "Between"
  | .gt => "Gt"
  | .lt => "Lt"
  | .gte => "Gte"
  | .lte => "Lte"
  | .startsWith => "StartsWith"
  | .isNull => "IsNull"
  | .notNull => "NotNull"
  | .unknown => "Unknown"

/-- The name of a form of letters in labels. -/
def LetterCase.title : LetterCase → String
  | .upper => "upper case"
  | .lower => "lower case"
  | .capitalize => "capitalized"

/-- What a change does to the cells of a column. -/
def CellChange.label (column : String) : CellChange → String
  | .trim => "Trim whitespace in " ++ inQuotes column
  | .changeCase form => "Convert " ++ inQuotes column ++ " to " ++ form.title
  | .findReplace find replacement =>
    "Replace /" ++ find ++ "/ with " ++ inQuotes replacement ++ " in " ++ inQuotes column
  | .removeCurrency => "Remove currency formatting from " ++ inQuotes column
  | .round decimals => "Round " ++ inQuotes column ++ " to " ++ toString decimals ++ " decimal(s)"
  | .toNumber => "Convert " ++ inQuotes column ++ " to number"

/-- What a change does to each row. -/
def RowChange.label : RowChange → String
  | .fillNull column value => "Fill empty " ++ inQuotes column ++ " with " ++ inQuotes value.toText
  | .extractDate column part target =>
    "Extract " ++ part.word ++ " from " ++ inQuotes column ++ " into " ++
      inQuotes (dateTarget column part target)
  | .rename old new => "Rename " ++ inQuotes old ++ " to " ++ inQuotes new
  | .delete column => "Delete column " ++ inQuotes column
  | .split column separator targets =>
    "Split " ++ inQuotes column ++ " on " ++ inQuotes separator ++ " into " ++ inQuotesAll targets
  | .concat columns _ target => "Join " ++ inQuotesAll columns ++ " into " ++ inQuotes target
  | .calculated target formula => "Calculate " ++ inQuotes target ++ " = " ++ formula

/-- Which rows a test keeps. -/
def RowTest.label : RowTest → String
  | .filled columns => "Remove rows with empty " ++ inQuotesAll columns
  | .meets condition =>
    "Keep rows where " ++ inQuotes condition.field ++ " " ++ condition.operator.title ++ " " ++
      inQuotes condition.target.toText

/-- What a change does to the table. -/
def TableChange.label : TableChange → String
  | .removeDuplicates .preserve => "Remove duplicate rows"
  | .removeDuplicates .canonical => "Remove duplicate rows (any key order)"
  | .sort column .asc => "Sort by " ++ inQuotes column ++ " ascending"
  | .sort column .desc => "Sort by " ++ inQuotes column ++ " descending"
  | .limit count .top => "Keep first " ++ toString count ++ " row(s)"
  | .limit count .bottom => "Keep last " ++ toString count ++ " row(s)"

/-- What a step does. -/
def Step.label : Step → String
  | .cells column change => change.label column
  | .rows change => change.label
  | .keep test => test.label
  | .table change => change.label
  | .unknown => "Unknown step (skipped)"

end Dashboard
