import Dashboard.Decimal.Layout
import Dashboard.Tree.Basic

/-!
# Tree.Printer · writing JSON

* **`compact`** writes a document without any white space.
* **`pretty`** writes it with two blanks of indentation for each level.

Both quote strings in the same way: a quotation mark, a reverse solidus and control characters are
escaped, everything else stands as it is. A number that is not finite is written as `null`.
-/

namespace Dashboard

namespace Tree

/-- A hexadecimal digit in lower case. -/
def hexChar (n : Nat) : Char := Nat.digitChar n

/-- The written form of a character inside quotation marks. -/
def escapeChar (c : Char) : List Char :=
  if c = '"' then ['\\', '"']
  else if c = '\\' then ['\\', '\\']
  else if c = '\n' then ['\\', 'n']
  else if c = '\r' then ['\\', 'r']
  else if c = '\t' then ['\\', 't']
  else if c.toNat = 8 then ['\\', 'b']
  else if c.toNat = 12 then ['\\', 'f']
  else if c.toNat < 32 then ['\\', 'u', '0', '0', hexChar (c.toNat / 16), hexChar (c.toNat % 16)]
  else [c]

/-- A string in quotation marks. -/
def quote (s : String) : List Char := '"' :: (s.toList.flatMap escapeChar ++ ['"'])

/-- The text of an integer. -/
def integerChars (i : Int) : List Char :=
  Decimal.signChars (i < 0) ++ Decimal.digits i.natAbs

/-- The text of a number. -/
def realChars (x : Binary64) : List Char :=
  if x.isFinite then x.rawChars else ['n', 'u', 'l', 'l']

/-- The text of a truth value. -/
def boolChars (b : Bool) : List Char :=
  if b then ['t', 'r', 'u', 'e'] else ['f', 'a', 'l', 's', 'e']

mutual

/-- The text of a document without white space. -/
def compact : Tree → List Char
  | .null => ['n', 'u', 'l', 'l']
  | .bool b => boolChars b
  | .integer i => integerChars i
  | .real x => realChars x
  | .text s => quote s
  | .list items => '[' :: (compactItems items ++ [']'])
  | .object members => '\x7b' :: (compactMembers members ++ ['\x7d'])

/-- Documents with commas between them. -/
def compactItems : List Tree → List Char
  | [] => []
  | [t] => t.compact
  | t :: rest => t.compact ++ ',' :: compactItems rest

/-- Members with commas between them. -/
def compactMembers : List (String × Tree) → List Char
  | [] => []
  | [(name, t)] => quote name ++ ':' :: t.compact
  | (name, t) :: rest => quote name ++ ':' :: (t.compact ++ ',' :: compactMembers rest)

end

/-- A line break and the indentation of a level. -/
def newLine (level : Nat) : List Char := '\n' :: List.replicate (2 * level) ' '

mutual

/-- The indented text of a document that stands at a level. -/
def prettyAt (level : Nat) : Tree → List Char
  | .list [] => ['[', ']']
  | .list (t :: rest) =>
    '[' :: (newLine (level + 1) ++ prettyAt (level + 1) t ++ prettyItems level rest ++
      newLine level ++ [']'])
  | .object [] => ['\x7b', '\x7d']
  | .object ((name, t) :: rest) =>
    '\x7b' :: (newLine (level + 1) ++ quote name ++ ':' :: ' ' :: prettyAt (level + 1) t ++
      prettyMembers level rest ++ newLine level ++ ['\x7d'])
  | .null => ['n', 'u', 'l', 'l']
  | .bool b => boolChars b
  | .integer i => integerChars i
  | .real x => realChars x
  | .text s => quote s

/-- The further items of a list at a level, each after a comma. -/
def prettyItems (level : Nat) : List Tree → List Char
  | [] => []
  | t :: rest => ',' :: (newLine (level + 1) ++ prettyAt (level + 1) t ++ prettyItems level rest)

/-- The further members of an object at a level, each after a comma. -/
def prettyMembers (level : Nat) : List (String × Tree) → List Char
  | [] => []
  | (name, t) :: rest =>
    ',' :: (newLine (level + 1) ++ quote name ++ ':' :: ' ' :: prettyAt (level + 1) t ++
      prettyMembers level rest)

end

/-- The text of a document without white space. -/
def compactText (t : Tree) : String := String.ofList t.compact

/-- The indented text of a document. -/
def prettyText (t : Tree) : String := String.ofList (prettyAt 0 t)

end Tree

end Dashboard
