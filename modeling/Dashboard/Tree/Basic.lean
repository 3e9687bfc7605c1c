import Dashboard.Binary64.Rounding
import Dashboard.Text.Search

/-!
# Tree · documents with typed scalars

A `Tree` is a JSON document. Members keep the order in which they were written, and a name may
occur twice; what a repeated name means is decided by whoever reads the tree.

* **`lookup`** finds a member of an object.
* **`canonical`** sorts the members of all objects by name, of equal names keeping the last.
* **`same`** compares trees, numbers by value.
-/

namespace Dashboard

/-- A document: a scalar, a list, or an object with members in order. -/
inductive Tree where
  | null
  | bool (value : Bool)
  | integer (value : Int)
  | real (value : Binary64)
  | text (value : String)
  | list (items : List Tree)
  | object (members : List (String × Tree))
deriving Inhabited

namespace Tree

/-- The member of an object with a name, the first one if there are several. -/
def lookup (name : String) : Tree → Option Tree
  | .object members => members.lookup name
  | _ => none

/-- Whether an object has a member with a name. -/
def hasMember (name : String) (t : Tree) : Bool := (t.lookup name).isSome

/-- Puts a member into members sorted by name; a member of the same name is replaced. -/
def insertSorted (name : String) (value : Tree) : List (String × Tree) → List (String × Tree)
  | [] => [(name, value)]
  | (n, v) :: rest =>
    match Text.order name n with
    | .lt => (name, value) :: (n, v) :: rest
    | .eq => (name, value) :: rest
    | .gt => (n, v) :: insertSorted name value rest

mutual

/-- The same document with sorted objects, in which the last of equal names stands. A number that
is not finite has no place in it and becomes null. -/
def canonical : Tree → Tree
  | .real x => if x.isFinite then .real x else .null
  | .list items => .list (canonicalItems items)
  | .object members => .object (canonicalMembers members [])
  | t => t

/-- `canonical` on each item. -/
def canonicalItems : List Tree → List Tree
  | [] => []
  | t :: rest => t.canonical :: canonicalItems rest

/-- Puts members one after the other into sorted members. -/
def canonicalMembers : List (String × Tree) → List (String × Tree) → List (String × Tree)
  | [], sorted => sorted
  | (name, t) :: rest, sorted => canonicalMembers rest (insertSorted name t.canonical sorted)

end

mutual

/-- Whether two documents are equal, numbers by value. -/
def same : Tree → Tree → Bool
  | .null, .null => true
  | .bool a, .bool b => a == b
  | .integer a, .integer b => a == b
  | .real a, .real b => a.same b
  | .text a, .text b => a == b
  | .list a, .list b => sameItems a b
  | .object a, .object b => sameMembers a b
  | _, _ => false

/-- `same` on lists of the same length. -/
def sameItems : List Tree → List Tree → Bool
  | [], [] => true
  | a :: as, b :: bs => a.same b && sameItems as bs
  | _, _ => false

/-- `same` on members in the same order. -/
def sameMembers : List (String × Tree) → List (String × Tree) → Bool
  | [], [] => true
  | (n, a) :: as, (m, b) :: bs => n == m && a.same b && sameMembers as bs
  | _, _ => false

end

end Tree

end Dashboard
