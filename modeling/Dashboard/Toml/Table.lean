import Dashboard.Tree.Basic

/-!
# Toml.Table · tables under construction

A text fills its tables from several places. An item remembers where it came from, because a table
may be opened only once.

* **`Item`** is a value, a table, or a list of tables.
* **`openTable?`**, **`openListedTable?`** and **`addValue?`** are what headers and lines do to the
  root table. They fail for a name that is taken.
-/

namespace Dashboard

namespace Toml

/-- Where a table came from. -/
inductive Origin where
  /-- It has a header of its own. -/
  | header
  /-- The header of a table in it named it. -/
  | implied
  /-- A key with points named it. -/
  | dotted
deriving DecidableEq, Repr

/-- A value, a table, or a list of tables, the last one first. -/
inductive Item where
  | value (t : Tree)
  | table (origin : Origin) (members : List (String × Item))
  | tables (items : List (List (String × Item)))
deriving Inhabited

/-- The members of a table. -/
abbrev Members := List (String × Item)

/-- Members with the item of a name put in its place, or at the end. -/
def putItem (name : String) (item : Item) : Members → Members
  | [] => [(name, item)]
  | (n, i) :: rest => if n == name then (n, item) :: rest else (n, i) :: putItem name item rest

/-- Changes the table at a path, where tables that are not there are created. A key with points
does not go into a table that has a header. -/
def changeAt? (isDotted : Bool) (change? : Origin → Members → Option Members) :
    List String → Origin → Members → Option Members
  | [], origin, members => change? origin members
  | name :: path, _, members =>
    match members.lookup name with
    | none => do
      let origin := if isDotted then .dotted else .implied
      let inner ← changeAt? isDotted change? path origin []
      some (putItem name (.table origin inner) members)
    | some (.table origin inner) =>
      if isDotted && origin == .header then none
      else do
        let inner ← changeAt? isDotted change? path origin inner
        some (putItem name (.table origin inner) members)
    | some (.tables (last :: before)) => do
      let last ← changeAt? isDotted change? path .header last
      some (putItem name (.tables (last :: before)) members)
    | some _ => none

/-- Opens a table by its header. It may be there already only if the header of a table in it named
it. -/
def openTable? (path : List String) (name : String) (root : Members) : Option Members :=
  changeAt? false
    (fun _ members =>
      match members.lookup name with
      | none => some (putItem name (.table .header []) members)
      | some (.table .implied inner) => some (putItem name (.table .header inner) members)
      | some _ => none)
    path .header root

/-- Opens a further table of a list of tables by its header. -/
def openListedTable? (path : List String) (name : String) (root : Members) : Option Members :=
  changeAt? false
    (fun _ members =>
      match members.lookup name with
      | none => some (putItem name (.tables [[]]) members)
      | some (.tables items) => some (putItem name (.tables ([] :: items)) members)
      | some _ => none)
    path .header root

/-- Adds a value under a key with points. The name must be free, and a table on the way must not
have been opened in another manner. -/
def addDotted? (path : List String) (name : String) (item : Item) (members : Members) :
    Option Members :=
  changeAt? true
    (fun origin members =>
      if (members.lookup name).isSome || (!path.isEmpty && origin != .dotted) then none
      else some (putItem name item members))
    path .header members

/-- Adds a value to the table that a header has opened. -/
def addValue? (header path : List String) (name : String) (item : Item) (root : Members) :
    Option Members :=
  changeAt? false (fun _ members => addDotted? path name item members) header .header root

mutual

/-- The document of an item. -/
def Item.toTree : Item → Tree
  | .value t => t
  | .table _ members => .object (membersTree members)
  | .tables items => .list (tablesTree items).reverse

/-- The documents of members. -/
def membersTree : List (String × Item) → List (String × Tree)
  | [] => []
  | (name, item) :: rest => (name, item.toTree) :: membersTree rest

/-- The documents of tables. -/
def tablesTree : List (List (String × Item)) → List Tree
  | [] => []
  | members :: rest => .object (membersTree members) :: tablesTree rest

end

end Toml

end Dashboard
