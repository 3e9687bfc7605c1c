import Dashboard.Query.Condition

/-!
# Query.LiveValue · what filter widgets emit

A filter widget emits a live value: a toggle, a text, a list, a range or a numeric range. Anything
else constrains nothing.

* **`LiveValue.ofTree`** tells the kinds apart: an object with `start` or `end` is a range, another
  one with `min` or `max` a numeric range.
* **`isUnconstrained`** says whether a value is skipped, **`accepts`** whether a cell passes it.
-/

namespace Dashboard

/-- Bounds of a range; an absent bound is open. -/
structure Bounds where
  lower : Option Cell
  upper : Option Cell
deriving DecidableEq

/-- A value that a filter widget emits. -/
inductive LiveValue where
  | toggle (on : Bool)
  | text (value : String)
  | list (cells : List Cell)
  /-- Bounds that cells are compared with as in filters. -/
  | range (bounds : Bounds)
  /-- Bounds that cells are compared with as numbers. -/
  | numericRange (bounds : Bounds)
  /-- A document that constrains nothing. -/
  | other (tree : Tree)

namespace LiveValue

/-- The word that stands for no choice. -/
def allWord : String := "all"

/-! ## Documents -/

/-- Reads a bound from the members of an object; null is an open bound. -/
def bound? (name : String) (t : Tree) : Option (Option Cell) :=
  match t.lookup name with
  | none => some none
  | some .null => some none
  | some t => (Cell.ofTree? t).map some

/-- Reads two bounds from the members of an object. -/
def bounds? (lower upper : String) (t : Tree) : Option Bounds := do
  let low ← bound? lower t
  let high ← bound? upper t
  some ⟨low, high⟩

/-- The live value of a canonical document. -/
def ofCanonical (t : Tree) : LiveValue :=
  let read :=
    if t.hasMember "start" || t.hasMember "end" then (bounds? "start" "end" t).map range
    else if t.hasMember "min" || t.hasMember "max" then (bounds? "min" "max" t).map numericRange
    else
      match t with
      | .bool on => some (.toggle on)
      | .text value => some (.text value)
      | .list items => (items.mapM Cell.ofTree?).map list
      | _ => none
  read.getD (.other t)

/-- The live value of a document. -/
def ofTree (t : Tree) : LiveValue := ofCanonical t.canonical

/-- Decodes a live value; every tree is one. -/
def decode? {δ : Type} [Document δ] (d : δ) : Option LiveValue :=
  (Document.resolve? d).map ofTree

/-- The document of a bound. -/
def boundTree (bound : Option Cell) : Tree := (bound.map Cell.toTree).getD .null

/-- The document of a live value. -/
def toTree : LiveValue → Tree
  | .toggle on => .bool on
  | .text value => .text value
  | .list cells => .list (cells.map Cell.toTree)
  | .range b => .object [("start", boundTree b.lower), ("end", boundTree b.upper)]
  | .numericRange b => .object [("min", boundTree b.lower), ("max", boundTree b.upper)]
  | .other t => t

/-- The word for the kind of a live value. -/
def kind : LiveValue → String
  | .toggle _ => "toggle"
  | .text _ => "text"
  | .list _ => "list"
  | .range _ => "range"
  | .numericRange _ => "numericRange"
  | .other _ => "other"

/-! ## Constraints -/

/-- Whether the value is skipped: no text or the word for all, a toggle that is off, no items, or
another document. -/
def isUnconstrained : LiveValue → Bool
  | .text value => value.isEmpty || value == allWord
  | .toggle on => !on
  | .list cells => cells.isEmpty
  | .range _ | .numericRange _ => false
  | .other _ => true

/-- A bound that constrains: neither absent nor blank. -/
def closed? (bound : Option Cell) : Option Cell := bound.filter (!·.isBlank)

/-- Whether a bound is open or passes a test. -/
def boundHolds (bound : Option Cell) (test : Cell → Bool) : Bool :=
  match closed? bound with
  | some cell => test cell
  | none => true

/-- Whether a cell passes. -/
def accepts (value : LiveValue) (cell : Cell) : Bool :=
  match value with
  | .text wanted =>
    wanted.isEmpty || wanted == allWord ||
      Text.occurs (Text.lower wanted.toList) (Text.lower cell.chars)
  | .toggle true => cell.isTruthy && cell.toText != "false" && cell.toText != "0"
  | .toggle false => true
  | .list cells => cells.isEmpty || cell.isAmong cells
  | .range b => boundHolds b.lower cell.atLeast && boundHolds b.upper cell.atMost
  | .numericRange b =>
    boundHolds b.lower (fun low => low.toNumber.atMost cell.toNumber) &&
      boundHolds b.upper (fun high => cell.toNumber.atMost high.toNumber)
  | .other _ => true

/-- Equality of bounds, numbers by value. -/
def sameBound : Option Cell → Option Cell → Bool
  | some a, some b => a.same b
  | none, none => true
  | _, _ => false

/-- Equality of live values, numbers by value. -/
def same : LiveValue → LiveValue → Bool
  | .toggle a, .toggle b => a == b
  | .text a, .text b => a == b
  | .list as, .list bs => as.length == bs.length && (as.zip bs).all fun p => p.1.same p.2
  | .range a, .range b => sameBound a.lower b.lower && sameBound a.upper b.upper
  | .numericRange a, .numericRange b => sameBound a.lower b.lower && sameBound a.upper b.upper
  | .other a, .other b => a.same b
  | _, _ => false

end LiveValue

end Dashboard
