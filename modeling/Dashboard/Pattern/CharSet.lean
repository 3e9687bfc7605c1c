import Dashboard.Numeral
import Dashboard.Pattern.FoldTable
import Dashboard.Pattern.PropertyTable
import Dashboard.Text.CasedTable
import Dashboard.Text.Search

/-!
# Pattern.CharSet · sets of characters

A set is built from ranges by the operations that patterns have. Membership is decided by
evaluating the set, so the laws of the operations are those of `Bool`.

* **`CharSet.contains`** decides membership.
* **`folded`** adds every character that differs only in case from a member.
* **`property?`** finds the set of a Unicode property by its name.
-/

namespace Dashboard

namespace Pattern

/-- A set of code points. -/
inductive CharSet where
  /-- The code points in some closed ranges. -/
  | ranges (rs : List (Nat × Nat))
  | union (a b : CharSet)
  | inter (a b : CharSet)
  | diff (a b : CharSet)
  | symmDiff (a b : CharSet)
  | complement (a : CharSet)
  /-- The set with all case variants of its members. -/
  | folded (a : CharSet)
  /-- The set with the case variants of its ASCII letters. -/
  | asciiFolded (a : CharSet)
deriving DecidableEq, Repr, Inhabited

/-! ## Case variants -/

/-- The code point that stands for all case variants of a code point. -/
def foldCodePoint (n : Nat) : Nat :=
  match foldRuns.find? (·.covers n) with
  | some run => (n + run.shift).toNat
  | none => n

/-- All case variants of a code point, itself included. -/
def caseVariants (n : Nat) : List Nat :=
  let f := foldCodePoint n
  f :: foldRuns.filterMap fun run =>
    let origin := ((f : Int) - run.shift).toNat
    if run.covers origin && (origin : Int) + run.shift == f then some origin else none

/-- The case variants of a code point among the ASCII letters, itself included. -/
def asciiVariants (n : Nat) : List Nat :=
  if 65 ≤ n ∧ n ≤ 90 then [n, n + 32] else if 97 ≤ n ∧ n ≤ 122 then [n, n - 32] else [n]

namespace CharSet

/-- Whether a code point belongs to a set. -/
def contains : CharSet → Nat → Bool
  | .ranges rs, n => Text.inRanges rs n
  | .union a b, n => a.contains n || b.contains n
  | .inter a b, n => a.contains n && b.contains n
  | .diff a b, n => a.contains n && !b.contains n
  | .symmDiff a b, n => a.contains n != b.contains n
  | .complement a, n => !a.contains n
  | .folded a, n => (caseVariants n).any a.contains
  | .asciiFolded a, n => (asciiVariants n).any a.contains

/-- The set without members. -/
def empty : CharSet := .ranges []

/-- The set of one character. -/
def single (c : Char) : CharSet := .ranges [(c.toNat, c.toNat)]

/-- The greatest code point. -/
def maxCodePoint : Nat := 0x10FFFF

/-- The set of all characters. -/
def all : CharSet := .ranges [(0, maxCodePoint)]

/-- Whether a code point of one byte beyond ASCII belongs to a set. -/
def beyondAscii (s : CharSet) : Bool := (List.range 128).any fun n => s.contains (n + 128)

/-- An estimate of the room that a set takes in a compiled pattern. -/
def weight : CharSet → Nat
  | .ranges rs => rs.length
  | .union a b | .inter a b | .diff a b | .symmDiff a b => a.weight + b.weight
  | .complement a => a.weight + 8
  | .folded a | .asciiFolded a => 2 * a.weight

end CharSet

/-! ## Properties -/

/-- The ranges that alternating lengths of gaps and ranges write, from a code point on. -/
def rangesFrom (start : Nat) : List Nat → List (Nat × Nat)
  | gap :: length :: rest =>
    (start + gap, start + gap + length - 1) :: rangesFrom (start + gap + length) rest
  | _ => []

/-- The numbers of a line, with blanks between them. -/
def readLine (line : String) : List Nat := (Text.split [' '] line.toList).map Decimal.ofDigits

/-- The set that the lines of a table write. -/
def readSet (lines : List String) : CharSet := .ranges (rangesFrom 0 (lines.flatMap readLine))

/-- The set of a table under a name. -/
def tableLookup (name : String) (table : List (List String × List String)) : Option CharSet :=
  (table.find? fun entry => name ∈ entry.1).map fun entry => readSet entry.2

/-- The set of a general category under its reduced name. -/
def category? (name : String) : Option CharSet :=
  if name = "any" then some .all
  else if name = "ascii" then some (.ranges [(0, 127)])
  else if name = "assigned" then (tableLookup "cn" categoryTable).map .complement
  else
    match categoryGroups.find? fun group => name ∈ group.1 with
    | some group =>
      some (group.2.foldl
        (fun s part => s.union ((tableLookup part categoryTable).getD .empty)) .empty)
    | none => tableLookup name categoryTable

/-- The set of a script under its reduced name. -/
def script? (name : String) : Option CharSet := tableLookup name scriptTable

/-- A name of a property without blanks, marks and capitals, and without `is` at its head. -/
def reduceName (name : List Char) : String :=
  let kept := (name.filter fun c =>
    c.toNat < 128 && c != ' ' && c != '_' && c != '-').map Char.toLower
  match kept with
  | 'i' :: 's' :: rest =>
    if rest = ['c'] then String.ofList kept else String.ofList rest
  | _ => String.ofList kept

/-- The set of a property by its name alone: a binary property, a general category or a script. -/
def property? (name : List Char) : Option CharSet :=
  let name := reduceName name
  match tableLookup name binaryTable with
  | some s => some s
  | none => (category? name).or (script? name)

/-- The set of a property by its name and value. -/
def propertyValue? (name value : List Char) : Option CharSet :=
  let name := reduceName name
  let value := reduceName value
  if name = "generalcategory" ∨ name = "gc" then category? value
  else if name = "script" ∨ name = "sc" ∨ name = "scriptextensions" ∨ name = "scx" then
    script? value
  else none

/-! ## Classes -/

/-- Decimal digits. -/
def digitSet : CharSet := (category? "nd").getD .empty

/-- White space. -/
def spaceSet : CharSet := (tableLookup "whitespace" binaryTable).getD .empty

/-- Characters of words. -/
def wordSet : CharSet := readSet wordTable

/-- Alphabetic characters. -/
def alphabeticSet : CharSet := (tableLookup "alphabetic" binaryTable).getD .empty

/-- Characters of numbers. -/
def numberSet : CharSet := (category? "n").getD .empty

/-- The digits of ASCII. -/
def asciiDigitSet : CharSet := .ranges [(48, 57)]

/-- The white space of ASCII. -/
def asciiSpaceSet : CharSet := .ranges [(9, 13), (32, 32)]

/-- The characters of words in ASCII. -/
def asciiWordSet : CharSet := .ranges [(48, 57), (65, 90), (95, 95), (97, 122)]

/-- The classes with a name between colons. -/
def namedClasses : List (String × List (Nat × Nat)) :=
  [("alnum", [(48, 57), (65, 90), (97, 122)]), ("alpha", [(65, 90), (97, 122)]),
    ("ascii", [(0, 127)]), ("blank", [(9, 9), (32, 32)]), ("cntrl", [(0, 31), (127, 127)]),
    ("digit", [(48, 57)]), ("graph", [(33, 126)]), ("lower", [(97, 122)]),
    ("print", [(32, 126)]), ("punct", [(33, 47), (58, 64), (91, 96), (123, 126)]),
    ("space", [(9, 13), (32, 32)]), ("upper", [(65, 90)]),
    ("word", [(48, 57), (65, 90), (95, 95), (97, 122)]),
    ("xdigit", [(48, 57), (65, 70), (97, 102)])]

end Pattern

end Dashboard
