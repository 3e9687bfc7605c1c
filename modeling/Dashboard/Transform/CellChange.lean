import Dashboard.Calendar.Timestamp
import Dashboard.Cell
import Dashboard.ColumnType
import Dashboard.Pattern.Replacement

/-!
# Transform.CellChange · changes of single cells

* **`CellChange`** names the changes that a column goes through in place.
* **`CellChange.apply?`** gives the change as a function on cells. There is none if a pattern is to
  be searched for and the text given for it is no pattern.

Changes of text work on the text of a cell and leave null alone. Changes of numbers keep what does
not read as a number.
-/

namespace Dashboard

/-- The forms of letters. -/
inductive LetterCase where
  | upper
  | lower
  /-- The first character in upper case, the others in lower case. -/
  | capitalize
deriving DecidableEq, Repr

namespace LetterCase

/-- The word for a form. -/
def word : LetterCase → String
  | .upper => "upper"
  | .lower => "lower"
  | .capitalize => "capitalize"

/-- Decodes a form. -/
def decode? {δ : Type} [Document δ] (d : δ) : Option LetterCase :=
  Document.choice? ([.upper, .lower, .capitalize].map fun f => (word f, f)) d

/-- A text in a form. -/
def apply (form : LetterCase) (s : String) : String :=
  String.ofList <|
    match form with
    | .upper => Text.upper s.toList
    | .lower => Text.lower s.toList
    | .capitalize => Text.capitalize s.toList

end LetterCase

/-- A change of the cells of a column. -/
inductive CellChange where
  /-- Takes white space from the ends. -/
  | trim
  | changeCase (form : LetterCase)
  /-- Replaces all matches of a pattern. -/
  | findReplace (find replacement : String)
  /-- Drops marks of currencies, commas and white space and reads the number at the head. -/
  | removeCurrency
  /-- Rounds to a number of decimals. -/
  | round (decimals : Nat)
  /-- Reads the number at the head. -/
  | toNumber
deriving DecidableEq, Repr

namespace Cell

/-- The cell with its text changed; null stays as it is. -/
def mapText (f : String → String) : Cell → Cell
  | .null => .null
  | c => .text (f c.toText)

/-- The marks of currencies, and the comma between thousands. -/
def currencyMarks : List Char := ['$', '€', '£', '¥', '₹', ',']

/-- A text without marks of currencies and white space. -/
def stripCurrency (s : List Char) : List Char :=
  s.filter fun c => !Text.isBlank c && !currencyMarks.contains c

/-- The number at the head of the cell's text without marks of currencies; the cell itself if there
is none. -/
def removeCurrency (c : Cell) : Cell :=
  if c.isNull then .null
  else
    match Numeral.leadingChars? (stripCurrency c.chars) with
    | some x => .number x
    | none => c

/-- The number at the head of a text; any other cell, and a text without a number, as it is. -/
def readNumber (c : Cell) : Cell :=
  match c with
  | .text s =>
    match Numeral.leading? s with
    | some x => .number x
    | none => c
  | c => c

/-- The greatest number of decimals that rounding can change. -/
def maxDecimals : Nat := 15

/-- A number rounded to a number of decimals, a half away from zero. -/
def roundNumber (decimals : Nat) (x : Binary64) : Binary64 :=
  if !x.isFinite || decimals > maxDecimals then x
  else
    let factor := Binary64.ofNat (10 ^ decimals)
    let rounded := (x * factor).roundAway / factor
    if rounded.isFinite then rounded else x

/-- The number of the cell, or at the head of its text, rounded; any other cell as it is. -/
def round (decimals : Nat) (c : Cell) : Cell :=
  match c.readNumber with
  | .number x => .number (roundNumber decimals x)
  | c => c

end Cell

/-- The change as a function; none if a pattern is no pattern. -/
def CellChange.apply? : CellChange → Option (Cell → Cell)
  | .trim => some (Cell.mapText Text.trimString)
  | .changeCase form => some (Cell.mapText form.apply)
  | .findReplace find replacement =>
    (Pattern.ofString? find).map fun pattern => Cell.mapText (pattern.replaceAll replacement)
  | .removeCurrency => some Cell.removeCurrency
  | .round decimals => some (Cell.round decimals)
  | .toNumber => some Cell.readNumber

end Dashboard
