import Std.Data.HashMap

/-!
# Query.Grouping · values by key in the order of first use

**`Groups`** holds values by key. `entries` has the keys in the order in which they were first used,
and `index` says where a key stands.
-/

namespace Dashboard

/-- Values by key, in the order in which the keys were first used. -/
structure Groups (α : Type) where
  /-- The place of each key in `entries`. -/
  index : Std.HashMap String Nat
  /-- Keys with their values. -/
  entries : Array (String × α)

namespace Groups

variable {α : Type}

/-- No keys. -/
def empty : Groups α := ⟨∅, #[]⟩

instance : Inhabited (Groups α) := ⟨empty⟩

/-- Changes the value of a key; a new key starts from `initial`. -/
def update (groups : Groups α) (key : String) (initial : α) (f : α → α) : Groups α :=
  match groups.index[key]? with
  | some place =>
    { groups with entries := groups.entries.modify place fun entry => (entry.1, f entry.2) }
  | none =>
    { index := groups.index.insert key groups.entries.size
      entries := groups.entries.push (key, f initial) }

/-- The value of a key. -/
def get? (groups : Groups α) (key : String) : Option α := do
  let place ← groups.index[key]?
  let entry ← groups.entries[place]?
  some entry.2

/-- The keys with their values, in the order of first use. -/
def toList (groups : Groups α) : List (String × α) := groups.entries.toList

end Groups

end Dashboard
