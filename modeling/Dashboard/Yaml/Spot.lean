/-!
# Yaml.Spot · characters with their positions

Indentation gives a YAML text its structure, so every character is read together with its line and
column.

* **`spots?`** gives the characters of a text with their positions. Line ends are `\n` afterwards.
* **`isBlank`**, **`isBreak`** and **`endsWord`** are the classes of characters that separate.
-/

namespace Dashboard

namespace Yaml

/-- A character with its position. -/
structure Spot where
  char : Char
  line : Nat
  column : Nat
  /-- How many characters stand before it. -/
  index : Nat
deriving DecidableEq, Repr

/-- Whether a character is a blank or a tab. -/
def isBlank (c : Char) : Bool := c == ' ' || c == '\t'

/-- Whether a character ends a line. -/
def isBreak (c : Char) : Bool := c == '\n' || c == '\u2028' || c == '\u2029'

/-- Whether a text begins with a character that separates words, or is empty. -/
def endsWord : List Spot → Bool
  | [] => true
  | p :: _ => isBlank p.char || isBreak p.char

/-- Whether a text begins with a given character. -/
def startsWith (c : Char) : List Spot → Bool
  | [] => false
  | p :: _ => p.char == c

/-- Whether a text begins a line with the mark of the start or the end of a document. -/
def atDocumentMark : List Spot → Bool
  | a :: b :: c :: rest =>
    a.column == 0 && (a.char == '-' || a.char == '.') && b.char == a.char && c.char == a.char &&
      endsWord rest
  | _ => false

/-- Whether a character may stand in a text: control characters may not, except tab and line
ends. -/
def isAllowed (c : Char) : Bool :=
  let n := c.toNat
  n == 9 || n == 10 || n == 13 || (32 ≤ n && n ≤ 126) || n == 0x85 ||
    (0xA0 ≤ n && n ≤ 0xFFFD && n != 0xFEFF) || 0x10000 ≤ n

/-- A text in which every line end of one or two ordinary characters is `\n`. -/
def unifyBreaks : List Char → List Char
  | '\r' :: '\n' :: s => '\n' :: unifyBreaks s
  | '\r' :: s => '\n' :: unifyBreaks s
  | c :: s => (if c = '\u0085' then '\n' else c) :: unifyBreaks s
  | [] => []

/-- Characters with their positions, from a position on. -/
def spotsFrom (line column index : Nat) : List Char → List Spot
  | [] => []
  | c :: s =>
    ⟨c, line, column, index⟩ ::
      if isBreak c then spotsFrom (line + 1) 0 (index + 1) s
      else spotsFrom line (column + 1) (index + 1) s

/-- A text without a byte order mark at its head. -/
def dropByteOrderMark : List Char → List Char
  | c :: s => if c = '\uFEFF' then s else c :: s
  | [] => []

/-- The characters of a text with their positions; none if one of them is not allowed. -/
def spots? (s : List Char) : Option (List Spot) :=
  let s := dropByteOrderMark s
  if s.all isAllowed then some (spotsFrom 0 0 0 (unifyBreaks s)) else none

end Yaml

end Dashboard
