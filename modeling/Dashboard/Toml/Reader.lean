import Dashboard.Toml.Scalar
import Dashboard.Toml.Table
import Dashboard.Tree.Document

/-!
# Toml.Reader · reading TOML

**`Toml.read?`** reads a text as an object. The scanners take a text and give what they read
together with the text after it; lists and inline tables may be nested 80 deep.
-/

namespace Dashboard

namespace Toml

/-- A text without blanks at its head. -/
def skipBlanks (s : List Char) : List Char := s.dropWhile isBlank

/-- Splits off a comment, if there is one. -/
def scanComment (s : List Char) : List Char :=
  match s with
  | '#' :: s => s.dropWhile isLineChar
  | s => s

/-- Splits off blanks, a comment, and the end of the line or of the text. -/
def scanLineEnd? (s : List Char) : Option (List Char) :=
  match scanComment (skipBlanks s) with
  | [] => some []
  | s => dropNewLine? s

/-- Skips blanks, comments and line ends; `fuel` need not exceed the length of the text. -/
def skipLines : Nat → List Char → List Char
  | 0, s => s
  | fuel + 1, s =>
    match dropNewLine? (scanComment (skipBlanks s)) with
    | some s => skipLines fuel s
    | none => skipBlanks s

/-! ## Keys -/

/-- Whether a character may stand in a key without quotation marks. -/
def isKeyChar (c : Char) : Bool := c.isAlphanum || c == '_' || c == '-'

/-- Reads one name of a key. -/
def scanName? (s : List Char) : Option (String × List Char) :=
  match s with
  | '"' :: r => scanBasic? (r.length + 1) [] r
  | '\'' :: r => scanLiteral? [] r
  | s =>
    let name := s.takeWhile isKeyChar
    if name.isEmpty then none else some (String.ofList name, s.dropWhile isKeyChar)

/-- Reads names with points between them; `fuel` bounds their number. -/
def scanNames? : Nat → List Char → Option (List String × List Char)
  | 0, _ => none
  | fuel + 1, s => do
    let (name, s) ← scanName? (skipBlanks s)
    match skipBlanks s with
    | '.' :: s => do
      let (names, s) ← scanNames? fuel s
      some (name :: names, s)
    | s => some ([name], s)

/-- Reads a key: the names before the last one, and the last one. -/
def scanKey? (s : List Char) : Option (List String × String × List Char) := do
  let (names, s) ← scanNames? (s.length + 1) s
  let name ← names.getLast?
  some (names.dropLast, name, s)

/-- Reads a key and the equals sign after it. -/
def scanKeySign? (s : List Char) : Option (List String × String × List Char) := do
  let (path, name, s) ← scanKey? s
  match s with
  | '=' :: s => some (path, name, skipBlanks s)
  | _ => none

/-! ## Values -/

/-- A reader of values. -/
abbrev Scan := List Char → Option (Tree × List Char)

/-- Reads the items of a list up to its end; `fuel` bounds their number. -/
def scanItems? (scan? : Scan) : Nat → List Char → Option (List Tree × List Char)
  | 0, _ => none
  | fuel + 1, s =>
    match skipLines s.length s with
    | ']' :: s => some ([], s)
    | s => do
      let (t, s) ← scan? s
      match skipLines s.length s with
      | ']' :: s => some ([t], s)
      | ',' :: s => do
        let (ts, s) ← scanItems? scan? fuel s
        some (t :: ts, s)
      | _ => none

/-- Reads the members of an inline table up to its end; `fuel` bounds their number. -/
def scanMembers? (scan? : Scan) : Nat → Members → List Char → Option (Members × List Char)
  | 0, _, _ => none
  | fuel + 1, members, s => do
    let (path, name, s) ← scanKeySign? s
    let (t, s) ← scan? s
    let members ← addDotted? path name (.value t) members
    match skipBlanks s with
    | '\x7d' :: s => some (members, s)
    | ',' :: s => scanMembers? scan? fuel members s
    | _ => none

/-- Reads an inline table after its brace. -/
def scanInlineTable? (scan? : Scan) (s : List Char) : Option (Tree × List Char) :=
  match skipBlanks s with
  | '\x7d' :: s => some (.object [], s)
  | s => (scanMembers? scan? (s.length + 1) [] s).map fun (ms, s) => (.object (membersTree ms), s)

/-- Reads a value in which lists and inline tables are nested at most `depth` deep. -/
def scanValue? : Nat → Scan
  | _, [] => none
  | depth, c :: s =>
    if c = '"' ∨ c = '\'' then (scanString? (c :: s)).map fun (text, s) => (.text text, s)
    else if c = '[' ∨ c = '\x7b' then
      match depth with
      | 0 => none
      | depth + 1 =>
        if c = '[' then
          (scanItems? (scanValue? depth) (s.length + 1) s).map fun (ts, s) => (.list ts, s)
        else scanInlineTable? (scanValue? depth) s
    else
      let (word, rest) := scanWord (c :: s)
      (word? word).map (·, rest)

/-- How deep lists and inline tables may be nested. -/
def maxDepth : Nat := 80

/-! ## Lines -/

/-- A text under construction: its root table, and the path of the table that the last header has
opened. -/
structure State where
  root : Members
  header : List String

/-- Reads a line with a key and a value. -/
def scanPair? (st : State) (s : List Char) : Option (State × List Char) := do
  let (path, name, s) ← scanKeySign? s
  let (t, s) ← scanValue? maxDepth s
  let root ← addValue? st.header path name (.value t) st.root
  some ({ st with root }, s)

/-- Reads the header of a table after its bracket. -/
def scanHeader? (st : State) (s : List Char) : Option (State × List Char) := do
  let (path, name, s) ← scanKey? s
  match s with
  | ']' :: s => do
    let root ← openTable? path name st.root
    some (⟨root, path ++ [name]⟩, s)
  | _ => none

/-- Reads the header of a listed table after its brackets. -/
def scanListedHeader? (st : State) (s : List Char) : Option (State × List Char) := do
  let (path, name, s) ← scanKey? s
  match s with
  | ']' :: ']' :: s => do
    let root ← openListedTable? path name st.root
    some (⟨root, path ++ [name]⟩, s)
  | _ => none

/-- Reads what a line holds besides blanks and comments. -/
def scanLine? (st : State) (s : List Char) : Option (State × List Char) :=
  match s with
  | '[' :: '[' :: s => scanListedHeader? st s
  | '[' :: s => scanHeader? st s
  | s => scanPair? st s

/-- Reads lines up to the end of the text; `fuel` need not exceed its length. -/
def scanLines? : Nat → State → List Char → Option Members
  | 0, _, _ => none
  | fuel + 1, st, s =>
    match skipLines s.length s with
    | [] => some st.root
    | '#' :: s => if (scanComment ('#' :: s)).isEmpty then some st.root else none
    | s => do
      let (st, s) ← scanLine? st s
      let s ← scanLineEnd? s
      scanLines? fuel st s

/-- A text without a byte order mark at its head. -/
def dropByteOrderMark : List Char → List Char
  | c :: s => if c = '\uFEFF' then s else c :: s
  | [] => []

/-- Reads a text as an object. -/
def read? (text : String) : Option Tree :=
  let s := dropByteOrderMark text.toList
  (scanLines? (s.length + 1) ⟨[], []⟩ s).map fun members => .object (membersTree members)

end Toml

end Dashboard
