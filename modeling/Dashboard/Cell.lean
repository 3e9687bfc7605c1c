import Dashboard.Binary64.Arithmetic
import Dashboard.Numeral
import Dashboard.Text.Case
import Dashboard.Tree.Document
import Dashboard.Tree.Printer

/-!
# Cell · the values of a table

A cell is null, a truth value, a number or a text. All engines share the coercions defined here.

* **`toText`** is the form under which cells are grouped and compared for equality.
* **`toNumber`** is the strict numeric reading; **`toNumberOrZero`** is never a not-a-number.
* **`compare?`** is the comparison of filters, **`order`** the total comparison of sorting.
* **`ofTree?`** takes a document for a cell: a nested list or object becomes its own JSON text.
-/

namespace Dashboard

/-- A value of a table. -/
inductive Cell where
  | null
  | bool (value : Bool)
  | number (value : Binary64)
  | text (value : String)
deriving DecidableEq, Inhabited

namespace Cell

/-! ## Coercions -/

/-- Whether this is null. -/
def isNull : Cell → Bool
  | .null => true
  | _ => false

/-- Whether this is null or the empty text. -/
def isBlank : Cell → Bool
  | .null => true
  | .text s => s.isEmpty
  | _ => false

/-- The cell as a text. -/
def toText : Cell → String
  | .null => "null"
  | .bool true => "true"
  | .bool false => "false"
  | .number x => x.plainText
  | .text s => s

/-- The characters of `toText`. -/
def chars (c : Cell) : List Char := c.toText.toList

/-- The cell as a text, where null is empty. -/
def toTextOrEmpty : Cell → String
  | .null => ""
  | c => c.toText

/-- The cell as a number: null is `0`, a truth value `0` or `1`, and a text is read whole. -/
def toNumber : Cell → Binary64
  | .null => .zero false
  | .bool b => .ofNat b.toNat
  | .number x => x
  | .text s => Numeral.strict s

/-- The cell as a number, where what is not a number counts as `0`. -/
def toNumberOrZero (c : Cell) : Binary64 :=
  if c.toNumber.isNaN then .zero false else c.toNumber

/-- A cell read as a number or zero is a number. -/
theorem isNaN_toNumberOrZero (c : Cell) : c.toNumberOrZero.isNaN = false := by
  unfold toNumberOrZero
  cases hnan : c.toNumber.isNaN with
  | true => rfl
  | false => exact hnan

/-- Whether the cell counts as true: not null, not `false`, not zero, not empty. -/
def isTruthy : Cell → Bool
  | .null => false
  | .bool b => b
  | .number x => !x.isZero && !x.isNaN
  | .text s => !s.isEmpty

/-! ## Comparisons -/

/-- The comparison of filters: texts by code points, everything else as numbers. -/
def compare? : Cell → Cell → Option Ordering
  | .text a, .text b => some (Text.order a b)
  | a, b => a.toNumber.compare? b.toNumber

/-- Whether the cell is at least a bound. -/
def atLeast (c bound : Cell) : Bool :=
  c.compare? bound == some .gt || c.compare? bound == some .eq

/-- Whether the cell is at most a bound. -/
def atMost (c bound : Cell) : Bool :=
  c.compare? bound == some .lt || c.compare? bound == some .eq

/-- Equality of cells, numbers by value: a not-a-number differs from itself. -/
def same : Cell → Cell → Bool
  | .null, .null => true
  | .bool a, .bool b => a == b
  | .number a, .number b => a.same b
  | .text a, .text b => a == b
  | _, _ => false

/-- The number by which a cell is sorted: numbers, and texts that are not blank and read as a
number. -/
def sortNumber? : Cell → Option Binary64
  | .number x => some x
  | .text s =>
    if (Text.trim s.toList).isEmpty then none
    else if (Numeral.strict s).isNaN then none else some (Numeral.strict s)
  | _ => none

/-- The comparison of sorting: numbers come before everything else; the others are compared without
regard to case, and then as they stand. -/
def order (a b : Cell) : Ordering :=
  match a.sortNumber?, b.sortNumber? with
  | some x, some y => x.totalOrder y
  | some _, none => .lt
  | none, some _ => .gt
  | none, none =>
    (Text.order (Text.lowerString a.toText) (Text.lowerString b.toText)).then
      (Text.order a.toText b.toText)

/-! ## Documents -/

/-- The first number whose neighbours are further than one apart: `2 ^ 53`. -/
def wholeLimit : Nat := 2 ^ (53 : Nat)

/-- The document of a number: an integer if it is whole and below `2 ^ 53`. -/
def numberTree (x : Binary64) : Tree :=
  if x.isIntegral && x.wholePart < wholeLimit then .integer x.truncate else .real x

/-- The document of a cell. -/
def toTree : Cell → Tree
  | .null => .null
  | .bool b => .bool b
  | .number x => numberTree x
  | .text s => .text s

/-- The cell that a document writes. A list or an object becomes the text of its canonical form.
An integer beyond 64 bits is refused. -/
def ofTree? : Tree → Option Cell
  | .null => some .null
  | .bool b => some (.bool b)
  | .integer i =>
    if Binary64.int64Min ≤ i ∧ i < 2 ^ (64 : Nat) then some (.number (.ofInt i)) else none
  | .real x => some (.number x)
  | .text s => some (.text s)
  | t => some (.text t.canonical.compactText)

/-- Decodes a cell. -/
def decode? {δ : Type} [Document δ] (d : δ) : Option Cell := (Document.resolve? d).bind ofTree?

/-- The JSON text of a cell. -/
def toJson (c : Cell) : String := c.toTree.compactText

end Cell

end Dashboard
