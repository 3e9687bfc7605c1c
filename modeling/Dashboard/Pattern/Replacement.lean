import Dashboard.Pattern.Search

/-!
# Pattern.Replacement · replacing matches

A replacement is a template in which `$name` and `${name}` stand for the text of a group, by number
or name, and `$$` for a dollar sign. A group that is not there or has not matched is empty.

* **`readTemplate`** splits a template into parts.
* **`Pattern.replaceAll`** puts the expanded template in the place of every match.
-/

namespace Dashboard

namespace Pattern

/-- A part of a template. -/
inductive TemplatePart where
  /-- A character that stands for itself. -/
  | mark (c : Char)
  /-- The text of a group. -/
  | group (name : List Char)
deriving DecidableEq, Repr

/-- Whether a character may stand in a name without braces. -/
def isReferenceChar (c : Char) : Bool := c.isAlphanum || c == '_'

/-- Splits a text into parts; `fuel` need not exceed its length. -/
def scanTemplate : Nat → List Char → List TemplatePart
  | 0, _ => []
  | _ + 1, [] => []
  | fuel + 1, '$' :: s =>
    let name := s.takeWhile isReferenceChar
    match s with
    | '$' :: rest => .mark '$' :: scanTemplate fuel rest
    | '\x7b' :: rest =>
      match scanUntil? '\x7d' rest with
      | some (name, rest) => .group name :: scanTemplate fuel rest
      | none => .mark '$' :: scanTemplate fuel s
    | s =>
      if name.isEmpty then .mark '$' :: scanTemplate fuel s
      else .group name :: scanTemplate fuel (s.dropWhile isReferenceChar)
  | fuel + 1, c :: s => .mark c :: scanTemplate fuel s

/-- The parts of a template. -/
def readTemplate (template : List Char) : List TemplatePart :=
  scanTemplate template.length template

/-- The group that a name stands for. -/
def groupIndex? (pattern : Pattern) (name : List Char) : Option Nat :=
  match Numeral.count? name with
  | some n => some n
  | none => pattern.names.lookup (String.ofList name)

/-- The text of a part of a template for a match. -/
def TemplatePart.expand (pattern : Pattern) (s : List Char) (found : Match) :
    TemplatePart → List Char
  | .mark c => [c]
  | .group name =>
    match groupIndex? pattern name with
    | some index => found.group s index
    | none => []

/-- Puts texts in the place of matches in the text after a place. -/
def replaceFrom (expand : Match → List Char) : Nat → List Match → List Char → List Char
  | _, [], s => s
  | index, found :: rest, s =>
    s.take (found.start - index) ++ expand found ++
      replaceFrom expand found.stop rest (s.drop (found.stop - index))

/-- A text with the expanded template in the place of every match. -/
def replaceAll (pattern : Pattern) (template : String) (text : String) : String :=
  let s := text.toList
  let parts := readTemplate template.toList
  String.ofList <|
    replaceFrom (fun found => parts.flatMap (TemplatePart.expand pattern s found)) 0
      (pattern.allMatches s) s

end Pattern

end Dashboard
