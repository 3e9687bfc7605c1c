import Dashboard.Decimal.Basic
import Dashboard.Numeral
import Dashboard.Tree.Document

/-!
# Yaml.Node · the structure of YAML texts

* **`Node`** is a scalar, a sequence or a mapping. A scalar keeps its text; what it means is decided
  where it is read.
* **`Scalar.resolve?`** types a scalar without quotation marks: null, a truth value, a number or a
  text.
* **`Node.resolve?`** makes a tree of a node by that rule. Where a string is wanted, a scalar is
  its own text instead, as the instance of `Document` says.
-/

namespace Dashboard

namespace Yaml

/-- The structure of a text. -/
inductive Node where
  | scalar (quoted : Bool) (text : String)
  | sequence (items : List Node)
  | mapping (members : List (Node × Node))
deriving Inhabited

/-! ## Scalars -/

namespace Scalar

/-- The words for null. -/
def nullWords : List String := ["null", "Null", "NULL", "~"]

/-- The words for the truth values. -/
def boolWords : List (String × Bool) :=
  [("true", true), ("True", true), ("TRUE", true), ("false", false), ("False", false),
    ("FALSE", false)]

/-- The words for numbers that are not finite, without a plus sign. -/
def specialWords : List (String × Binary64) :=
  [(".inf", .infinite false), (".Inf", .infinite false), (".INF", .infinite false),
    ("-.inf", .infinite true), ("-.Inf", .infinite true), ("-.INF", .infinite true),
    (".nan", .quietNaN), (".NaN", .quietNaN), (".NAN", .quietNaN)]

/-- The value of a digit in bases up to 16, if it is one in the base. -/
def digit? (base : Nat) (c : Char) : Option Nat := (Numeral.hexDigit? c).filter (· < base)

/-- Whether a text is a number of several digits with a leading zero. Such a text is no number. -/
def isPadded (s : List Char) : Bool :=
  let digits := match s with
    | '-' :: r => r
    | '+' :: r => r
    | r => r
  match digits with
  | '0' :: c :: rest => (c :: rest).all Char.isDigit
  | _ => false

/-- The value of digits after a mark of their base, or in base ten. -/
def magnitude? (s : List Char) : Option Nat :=
  match s with
  | '0' :: 'x' :: r => Numeral.ofDigits? (digit? 16) 16 r
  | '0' :: 'o' :: r => Numeral.ofDigits? (digit? 8) 8 r
  | '0' :: 'b' :: r => Numeral.ofDigits? (digit? 2) 2 r
  | r => Numeral.ofDigits? (digit? 10) 10 r

/-- The integer that a text writes. -/
def integer? (s : List Char) : Option Int :=
  if isPadded s then none
  else
    match s with
    | '-' :: r => (magnitude? r).map fun n => -(n : Int)
    | '+' :: r => (magnitude? r).map fun n => (n : Int)
    | r => (magnitude? r).map fun n => (n : Int)

/-- The finite number that a text writes as a decimal. -/
def real? (s : List Char) : Option Binary64 :=
  ((Decimal.ofChars? s).map Decimal.toBinary64).filter Binary64.isFinite

/-- A text without one plus sign at its head. -/
def dropPlus (s : List Char) : List Char :=
  match s with
  | '+' :: r => r
  | s => s

/-- The value of a text that is not an integer. -/
def resolveRest (s : List Char) : Tree :=
  let special? :=
    if s.head? = some '+' then
      (specialWords.lookup (String.ofList (dropPlus s))).filter (· = .infinite false)
    else specialWords.lookup (String.ofList s)
  match special? with
  | some x => .real x
  | none =>
    match if isPadded s then none else real? s with
    | some x => .real x
    | none => .text (String.ofList s)

/-- The value of a scalar without quotation marks; none for an integer of more than 64 bits that
fits 128 bits. -/
def resolve? (text : String) : Option Tree :=
  if text.isEmpty ∨ text ∈ nullWords then some .null
  else
    match boolWords.lookup text with
    | some b => some (.bool b)
    | none =>
      match integer? text.toList with
      | some i =>
        if Binary64.int64Min ≤ i ∧ i < 2 ^ (64 : Nat) then some (.integer i)
        else if -(2 ^ (127 : Nat)) ≤ i ∧ i < 2 ^ (128 : Nat) then none
        else some (resolveRest text.toList)
      | none => some (resolveRest text.toList)

end Scalar

/-! ## Nodes -/

namespace Node

/-- The text of a scalar. -/
def text? : Node → Option String
  | .scalar _ text => some text
  | _ => none

/-- The text of a scalar without quotation marks. -/
def plain? : Node → Option String
  | .scalar false text => some text
  | _ => none

/-- Whether this is null or left out. -/
def isNull (n : Node) : Bool :=
  match n.plain? with
  | some text => text.isEmpty || Scalar.nullWords.contains text
  | none => false

/-- Whether this is left out. -/
def isAbsent (n : Node) : Bool :=
  match n.plain? with
  | some text => text.isEmpty
  | none => false

/-- The truth value of a scalar. -/
def bool? (n : Node) : Option Bool := n.plain?.bind fun text => Scalar.boolWords.lookup text

/-- The integer of a scalar. -/
def integer? (n : Node) : Option Int := n.plain?.bind fun text => Scalar.integer? text.toList

/-- The items of a sequence; what is left out has none. -/
def items? (n : Node) : Option (List Node) :=
  match n with
  | .sequence items => some items
  | n => if n.isAbsent then some [] else none

/-- The members of a mapping by the texts of their keys; what is left out has none. -/
def members? (n : Node) : Option (List (String × Node)) :=
  match n with
  | .mapping members => members.mapM fun (key, value) => key.text?.map (·, value)
  | n => if n.isAbsent then some [] else none

mutual

/-- The node as a tree with typed scalars. -/
def resolve? : Node → Option Tree
  | .scalar true text => some (.text text)
  | .scalar false text => Scalar.resolve? text
  | .sequence items => (resolveItems? items).map .list
  | .mapping members => (resolveMembers? members).map .object

/-- `resolve?` on each item. -/
def resolveItems? : List Node → Option (List Tree)
  | [] => some []
  | n :: rest =>
    match n.resolve?, resolveItems? rest with
    | some t, some ts => some (t :: ts)
    | _, _ => none

/-- `resolve?` on each value. -/
def resolveMembers? : List (Node × Node) → Option (List (String × Tree))
  | [] => some []
  | (key, n) :: rest =>
    match key.text?, n.resolve?, resolveMembers? rest with
    | some name, some t, some ts => some ((name, t) :: ts)
    | _, _, _ => none

end

instance : Document Node where
  text? := Node.text?
  isNull := Node.isNull
  word? := Node.text?
  bool? := Node.bool?
  integer? := Node.integer?
  items? := Node.items?
  members? := Node.members?
  positional? := fun _ => none
  resolve? := Node.resolve?

end Node

end Yaml

end Dashboard
