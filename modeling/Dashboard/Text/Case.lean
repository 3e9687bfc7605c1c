import Dashboard.Text.CaseTable
import Dashboard.Text.CasedTable

/-!
# Text.Case · upper and lower case

* **`upper`** and **`lower`** map each character by its Unicode mapping, which may be several
  characters. A capital sigma becomes the final form `ς` at the end of a word.
* **`capitalize`** maps the first character up and the others down, each on its own.
-/

namespace Dashboard

namespace Text

/-- The upper case form of a character. -/
def upperChar (c : Char) : List Char :=
  if c.toNat < 128 then [c.toUpper]
  else (mapCodePoint upperRuns upperSpecial c.toNat).map Char.ofNat

/-- The lower case form of a character on its own. -/
def lowerChar (c : Char) : List Char :=
  if c.toNat < 128 then [c.toLower]
  else (mapCodePoint lowerRuns lowerSpecial c.toNat).map Char.ofNat

/-- Whether the first character that is not case-ignorable is cased. -/
def casedNext (s : List Char) : Bool :=
  match s.dropWhile fun c => inRanges caseIgnorableRanges c.toNat with
  | c :: _ => inRanges casedRanges c.toNat
  | [] => false

/-- Maps a text to lower case, where `before` holds the characters before it, last first. A capital
sigma is final if a cased character precedes it and none follows it. -/
def lowerAfter (before : List Char) : List Char → List Char
  | [] => []
  | c :: rest =>
    let mapped :=
      if c = 'Σ' then if casedNext before && !casedNext rest then ['ς'] else ['σ']
      else lowerChar c
    mapped ++ lowerAfter (c :: before) rest

/-- A text in lower case. -/
def lower (s : List Char) : List Char := lowerAfter [] s

/-- A text in upper case. -/
def upper (s : List Char) : List Char := s.flatMap upperChar

/-- A text with its first character in upper case and the others in lower case. -/
def capitalize : List Char → List Char
  | [] => []
  | c :: rest => upperChar c ++ rest.flatMap lowerChar

/-- A string in lower case. -/
def lowerString (s : String) : String := String.ofList (lower s.toList)

end Text

end Dashboard
