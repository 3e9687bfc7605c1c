import Dashboard.Tree.Basic

/-!
# Tree.Document · decoding values from documents

A document format answers a few questions about a node: is it a string, a list, an object, …
(`Document`). Decoders ask these questions and so work for every format. `none` means that the
document has another shape than the value needs.

* **`record?`** gives the members of an object for a list of field names. A field that is written
  twice is refused, a member that is no field is ignored. Where the format allows it, a list
  stands for the fields in their order.
* **`required`**, **`withDefault`** and **`optional`** say what the absence of a field means.
  Only `optional` takes `null` for absence.
-/

namespace Dashboard

/-- The questions that a decoder asks of a node of a document. -/
class Document (δ : Type) where
  /-- The string that the node writes. -/
  text? : δ → Option String
  /-- Whether the node stands for no value. -/
  isNull : δ → Bool
  /-- The word of an enumeration that the node writes. -/
  word? : δ → Option String
  /-- The truth value that the node writes. -/
  bool? : δ → Option Bool
  /-- The integer that the node writes. -/
  integer? : δ → Option Int
  /-- The items of a list. -/
  items? : δ → Option (List δ)
  /-- The members of an object. -/
  members? : δ → Option (List (String × δ))
  /-- The items of a list that stands for the fields of an object. -/
  positional? : δ → Option (List δ)
  /-- The node as a tree with typed scalars; none if it holds an integer beyond 64 bits. -/
  resolve? : δ → Option Tree

namespace Tree

/-- The string of a text. -/
def text? : Tree → Option String
  | .text s => some s
  | _ => none

/-- The value of a truth value. -/
def bool? : Tree → Option Bool
  | .bool b => some b
  | _ => none

/-- The value of an integer. -/
def integer? : Tree → Option Int
  | .integer i => some i
  | _ => none

/-- The items of a list. -/
def items? : Tree → Option (List Tree)
  | .list items => some items
  | _ => none

/-- The members of an object. -/
def members? : Tree → Option (List (String × Tree))
  | .object members => some members
  | _ => none

/-- A word: a text, or an object whose only member is named by the word and is `null`. -/
def word? : Tree → Option String
  | .text s => some s
  | .object [(name, .null)] => some name
  | _ => none

/-- Whether this is `null`. -/
def isNull : Tree → Bool
  | .null => true
  | _ => false

instance : Document Tree where
  text? := Tree.text?
  isNull := Tree.isNull
  word? := Tree.word?
  bool? := Tree.bool?
  integer? := Tree.integer?
  items? := Tree.items?
  members? := Tree.members?
  positional? := Tree.items?
  resolve? := some

end Tree

namespace Document

variable {δ : Type} [Document δ] {α : Type}

/-! ## Records -/

/-- How often a name occurs among members. -/
def occurrences (name : String) (members : List (String × δ)) : Nat :=
  (members.filter (·.1 == name)).length

/-- The fields of an object by name. -/
def fieldsByName? (names : List String) (d : δ) : Option (List (Option δ)) := do
  let members ← members? d
  if names.all fun name => occurrences name members ≤ 1 then
    some (names.map fun name => members.lookup name)
  else none

/-- The fields of an object by name, or of a list by position. -/
def record? (names : List String) (d : δ) : Option (List (Option δ)) :=
  match positional? d with
  | some items =>
    if items.length ≤ names.length then
      some (items.map some ++ List.replicate (names.length - items.length) none)
    else none
  | none => fieldsByName? names d

/-- A field that has to be there. -/
def required (decode : δ → Option α) (field : Option δ) : Option α := field.bind decode

/-- A field that stands for `value` if it is absent. -/
def withDefault (value : α) (decode : δ → Option α) : Option δ → Option α
  | some d => decode d
  | none => some value

/-- A value that may be `null`. -/
def nullable (decode : δ → Option α) (d : δ) : Option (Option α) :=
  if isNull d then some none else (decode d).map some

/-- A field that may be absent or `null`. -/
def optional (decode : δ → Option α) : Option δ → Option (Option α) :=
  withDefault none (nullable decode)

/-! ## Values -/

/-- A natural number below a bound. -/
def natBelow? (bound : Nat) (d : δ) : Option Nat :=
  match integer? d with
  | some (.ofNat n) => if n < bound then some n else none
  | _ => none

/-- A count of rows, below `2 ^ 64`. -/
def count? (d : δ) : Option Nat := natBelow? (2 ^ (64 : Nat)) d

/-- A list whose items are decoded one by one. -/
def list? (decode : δ → Option α) (d : δ) : Option (List α) := do
  let items ← items? d
  items.mapM decode

/-- Members with one added; a member of the same name is replaced in its place. -/
def putMember (name : String) (value : α) : List (String × α) → List (String × α)
  | [] => [(name, value)]
  | (n, v) :: rest => if n == name then (n, value) :: rest else (n, v) :: putMember name value rest

/-- An object whose members are decoded one by one; of equal names the last one stands, at the
place of the first. -/
def map? (decode : δ → Option α) (d : δ) : Option (List (String × α)) := do
  let members ← members? d
  members.foldlM (fun read (name, m) => (decode m).map (putMember name · read)) []

/-- A value of an enumeration by its word. -/
def choice? (words : List (String × α)) (d : δ) : Option α :=
  (word? d).bind fun word => words.lookup word

/-- The members of an object that have none of some names, with typed scalars. -/
def others? (names : List String) (d : δ) : Option Tree := do
  let members ← members? d
  let others := members.filter fun m => !names.contains m.1
  let typed ← others.mapM fun (name, m) => (resolve? m).map (name, ·)
  some (.object typed)

end Document

end Dashboard
