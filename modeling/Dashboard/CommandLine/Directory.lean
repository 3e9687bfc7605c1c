import Dashboard.Text.Search

/-!
# CommandLine.Directory · files by their paths

Files, directories and links stand under the names that lead to them from the root. A program runs
in one of the directories. A path with a slash at its head is followed from the root, any other path
from the directory of the program.

* **`walk`** follows the parts of a path up to a link, **`resolve`** follows links as well, and
  **`locate`** gives the names to which a path leads.
* **`read?`** gives the text of a file, **`write`** replaces or creates one.

A file has one place; links are paths to other places. There are no devices.
-/

namespace Dashboard

/-- What the program may do with an entry: use it, that is read a file or go through a directory,
and change it, that is write to a file or put a new file into a directory. -/
structure Rights where
  mayUse : Bool
  mayChange : Bool
deriving DecidableEq, Repr

/-- The rights to everything. -/
def Rights.all : Rights := ⟨true, true⟩

/-- What stands under given names. -/
inductive Entry where
  | directory (rights : Rights)
  /-- A file with its text, if its bytes are a text. -/
  | file (text? : Option String) (rights : Rights)
  /-- A link to the place where another path leads. -/
  | link (path : String)
deriving DecidableEq, Repr

/-- Entries by their names from the root on, with the directory in which a program runs. -/
structure Directory where
  entries : List (List String × Entry)
  /-- The names of the directory of the program. -/
  start : List String
deriving DecidableEq, Repr

/-- Why a path cannot be followed or its end not be opened. -/
inductive PathFault where
  | notFound
  | denied
  | notDirectory
  | isDirectory
  | nameTooLong
  | tooManyLinks
deriving DecidableEq, Repr

/-- The message of a fault. -/
def PathFault.message : PathFault → String
  | .notFound => "No such file or directory (os error 2)"
  | .denied => "Permission denied (os error 13)"
  | .notDirectory => "Not a directory (os error 20)"
  | .isDirectory => "Is a directory (os error 21)"
  | .nameTooLong => "File name too long (os error 36)"
  | .tooManyLinks => "Too many levels of symbolic links (os error 40)"

/-- What a file is opened for. Opening to write creates a file that is not there. -/
inductive Access where
  | read
  | write
deriving DecidableEq, Repr

/-- How far a path was followed. -/
inductive Stage where
  /-- To its end. There may be no entry under these names. -/
  | arrived (names : List String)
  /-- To a link in a directory, with more parts behind it. -/
  | atLink (here : List String) (path : String) (rest : List String)
deriving DecidableEq, Repr

namespace Directory

/-! ## Paths -/

/-- How many bytes a name may have. -/
def nameLimit : Nat := 255

/-- How many bytes a path may not reach. -/
def pathLimit : Nat := 4096

/-- How many links may be followed. -/
def linkLimit : Nat := 40

/-- The parts of a path. -/
def parts (path : String) : List String :=
  (Text.split ['/'] path.toList).map String.ofList

/-- The place from which a path is followed. -/
def origin (here : List String) (path : String) : List String :=
  if path.toList.head? = some '/' then [] else here

/-- Whether there are slashes and nothing else behind a name. -/
def areSlashes (rest : List String) : Bool := !rest.isEmpty && rest.all (·.isEmpty)

/-! ## Entries -/

/-- The entry under given names. -/
def entryAt? (dir : Directory) (names : List String) : Option Entry := dir.entries.lookup names

/-- The rights to the directory under given names. -/
def directoryAt? (dir : Directory) (names : List String) : Option Rights :=
  match dir.entryAt? names with
  | some (.directory rights) => some rights
  | _ => none

/-- The path of the link under given names. -/
def linkAt? (dir : Directory) (names : List String) : Option String :=
  match dir.entryAt? names with
  | some (.link path) => some path
  | _ => none

/-! ## Following paths -/

/-- Follows the parts of a path from a directory on, up to a link. The root is above itself. Opening
to write creates no directory, so no slash may stand behind the last name. -/
def walk (dir : Directory) (access : Access) :
    List String → List String → Except PathFault Stage
  | here, [] => .ok (.arrived here)
  | here, part :: rest =>
    match dir.directoryAt? here with
    | none => .error (if (dir.entryAt? here).isSome then .notDirectory else .notFound)
    | some rights =>
      if rights.mayUse = false then .error .denied
      else if part = "" ∨ part = "." then walk dir access here rest
      else if part = ".." then walk dir access here.dropLast rest
      else if access = .write ∧ areSlashes rest = true then .error .isDirectory
      else if nameLimit < part.utf8ByteSize then .error .nameTooLong
      else
        match dir.linkAt? (here ++ [part]) with
        | some path => .ok (.atLink here path rest)
        | none => walk dir access (here ++ [part]) rest

/-- Follows the parts of a path and at most so many links. The path of a link takes its place. -/
def resolve (dir : Directory) (access : Access) :
    Nat → List String → List String → Except PathFault (List String)
  | links, here, parts =>
    match dir.walk access here parts with
    | .error fault => .error fault
    | .ok (.arrived names) => .ok names
    | .ok (.atLink here path rest) =>
      match links with
      | 0 => .error .tooManyLinks
      | links + 1 =>
        resolve dir access links (origin here path) (Directory.parts path ++ rest)

/-- The names to which a path leads. -/
def locate (dir : Directory) (access : Access) (path : String) :
    Except PathFault (List String) :=
  if path.isEmpty then .error .notFound
  else if pathLimit ≤ path.utf8ByteSize then .error .nameTooLong
  else dir.resolve access linkLimit (origin dir.start path) (parts path)

/-! ## Files -/

/-- The text of the file under given names. -/
def textAt? (dir : Directory) (names : List String) : Option String :=
  match dir.entryAt? names with
  | some (.file text? rights) => if rights.mayUse then text? else none
  | _ => none

/-- The text of the file at a path. -/
def read? (dir : Directory) (path : String) : Option String :=
  match dir.locate .read path with
  | .error _ => none
  | .ok names => dir.textAt? names

/-- Replaces the entry under given names, or adds one at the end. -/
def putEntry (names : List String) (entry : Entry) :
    List (List String × Entry) → List (List String × Entry)
  | [] => [(names, entry)]
  | (n, e) :: rest => if n = names then (n, entry) :: rest else (n, e) :: putEntry names entry rest

/-- Puts an entry under given names. -/
def put (dir : Directory) (names : List String) (entry : Entry) : Directory :=
  { dir with entries := putEntry names entry dir.entries }

/-- The directory with a text in the file at a path. A new file is one with all rights. -/
def write (dir : Directory) (path text : String) : Except PathFault Directory :=
  match dir.locate .write path with
  | .error fault => .error fault
  | .ok names =>
    match dir.entryAt? names with
    | some (.file _ rights) =>
      if rights.mayChange then .ok (dir.put names (.file (some text) rights)) else .error .denied
    | some (.directory _) => .error .isDirectory
    | some (.link _) => .error .tooManyLinks
    | none =>
      match dir.directoryAt? names.dropLast with
      | some rights =>
        if rights.mayChange then .ok (dir.put names (.file (some text) .all)) else .error .denied
      | none => .error .notFound

/-! ## Building -/

/-- The directory with a directory under given names, unless there is an entry. -/
def addDirectory (dir : Directory) (names : List String) : Directory :=
  if (dir.entryAt? names).isSome then dir else dir.put names (.directory .all)

/-- The directory with a file at a path from the start, in the directories that the path names. -/
def addFile (dir : Directory) (path text : String) : Directory :=
  let names := dir.start ++ (parts path).filter fun part => part ≠ "" ∧ part ≠ "."
  let above := (List.range names.length).map names.take
  (above.foldl addDirectory dir).put names (.file (some text) .all)

/-- A start directory below the root with texts under paths. -/
def ofList (files : List (String × String)) : Directory :=
  files.foldl (fun dir (path, text) => dir.addFile path text)
    ((⟨[], ["start"]⟩ : Directory).addDirectory [] |>.addDirectory ["start"])

end Directory

end Dashboard
