import Dashboard.Numeral
import Dashboard.Yaml.Spot

/-!
# Yaml.ScalarText · the text of scalars

A scalar may run over several lines. A single line end inside it counts as a blank, and each
further one is kept; blanks around them are dropped (`Gap`).

* **`scanPlain?`** reads a scalar without quotation marks,
* **`scanSingle?`** one in single quotation marks, in which two of them stand for one,
* **`scanDouble?`** one in double quotation marks, with escapes.
-/

namespace Dashboard

namespace Yaml

/-! ## Gaps -/

/-- The blanks and line ends between two words of a scalar. -/
structure Gap where
  /-- The blanks before the first line end, last first. -/
  blanks : List Char
  /-- Whether there is a line end. -/
  broken : Bool
  /-- The first line end, unless it was escaped. -/
  first : Option Char
  /-- The further line ends, last first. -/
  more : List Char

namespace Gap

/-- Nothing between two words. -/
def empty : Gap := ⟨[], false, none, []⟩

/-- A line end that an escape removes. -/
def escapedBreak : Gap := ⟨[], true, none, []⟩

/-- The gap with a blank after it. -/
def addBlank (gap : Gap) (c : Char) : Gap :=
  if gap.broken then gap else { gap with blanks := c :: gap.blanks }

/-- The gap with a line end after it. -/
def addBreak (gap : Gap) (c : Char) : Gap :=
  if gap.broken then { gap with more := c :: gap.more } else ⟨[], true, some c, []⟩

/-- The characters that a gap stands for, last first. -/
def reversed (gap : Gap) : List Char :=
  if gap.broken then
    match gap.first with
    | some '\n' => if gap.more.isEmpty then [' '] else gap.more
    | some c => gap.more ++ [c]
    | none => gap.more
  else gap.blanks

end Gap

/-! ## Scalars without quotation marks -/

/-- A scalar that has been read: its text, whether the gap after it has a line end, and the text
after that gap. -/
structure PlainRead where
  text : String
  broken : Bool
  rest : List Spot

/-- The marks that end a scalar in a flow collection. -/
def flowMarks : List Char := [',', '[', ']', '\x7b', '\x7d']

/-- Whether a scalar ends before a character, for it is a colon at the end of a word, or a mark of a
flow collection. -/
def endsPlain (inFlow : Bool) (c : Char) (rest : List Spot) : Bool :=
  (c == ':' && endsWord rest) || (inFlow && flowMarks.contains c)

/-- Whether a colon stands directly before a mark of a flow collection. -/
def isStrayColon (inFlow : Bool) (c : Char) (rest : List Spot) : Bool :=
  inFlow && c == ':' && (('?' :: flowMarks).any fun m => startsWith m rest)

/-- Reads the rest of a scalar. Its characters so far are in `read`, last first; `gap` is what
stands between them and the next character. Lines outside of flow collections have to be indented
at least by `indent`. -/
def scanPlainFrom? (inFlow : Bool) (indent : Nat) :
    List Char → Gap → List Spot → Option PlainRead
  | read, gap, [] => some ⟨String.ofList read.reverse, gap.broken, []⟩
  | read, gap, p :: rest =>
    let done := some ⟨String.ofList read.reverse, gap.broken, p :: rest⟩
    let atGap := gap.broken || !gap.blanks.isEmpty
    if isBlank p.char then
      if gap.broken && p.column < indent && p.char == '\t' then none
      else scanPlainFrom? inFlow indent read (gap.addBlank p.char) rest
    else if isBreak p.char then scanPlainFrom? inFlow indent read (gap.addBreak p.char) rest
    else if atGap && !inFlow && p.column < indent then done
    else if atGap && (p.char == '#' || atDocumentMark (p :: rest)) then done
    else if isStrayColon inFlow p.char rest then none
    else if endsPlain inFlow p.char rest then done
    else scanPlainFrom? inFlow indent (p.char :: (gap.reversed ++ read)) .empty rest

/-- Reads a scalar without quotation marks. -/
def scanPlain? (inFlow : Bool) (indent : Nat) (s : List Spot) : Option PlainRead :=
  scanPlainFrom? inFlow indent [] .empty s

/-! ## Scalars in quotation marks -/

/-- Reads the rest of a scalar in single quotation marks. -/
def scanSingle? : List Char → Gap → List Spot → Option (String × List Spot)
  | _, _, [] => none
  | read, gap, p :: rest =>
    if atDocumentMark (p :: rest) then none
    else if isBlank p.char then scanSingle? read (gap.addBlank p.char) rest
    else if isBreak p.char then scanSingle? read (gap.addBreak p.char) rest
    else
      let read := gap.reversed ++ read
      if p.char = '\'' then
        match rest with
        | q :: rest =>
          if q.char = '\'' then scanSingle? ('\'' :: read) .empty rest
          else some (String.ofList read.reverse, q :: rest)
        | [] => some (String.ofList read.reverse, [])
      else scanSingle? (p.char :: read) .empty rest

/-- The characters that escapes of one character stand for. -/
def simpleEscapes : List (Char × Nat) :=
  [('0', 0), ('a', 7), ('b', 8), ('t', 9), ('\t', 9), ('n', 10), ('v', 11), ('f', 12), ('r', 13),
    ('e', 27), (' ', 32), ('"', 34), ('/', 47), ('\\', 92), ('N', 0x85), ('_', 0xA0),
    ('L', 0x2028), ('P', 0x2029)]

/-- How many hexadecimal digits an escape has. -/
def escapeLength? (c : Char) : Option Nat :=
  if c = 'x' then some 2 else if c = 'u' then some 4 else if c = 'U' then some 8 else none

/-- Reads what follows the reverse solidus of an escape. -/
def scanEscape? : List Spot → Option (Char × List Spot)
  | [] => none
  | p :: rest =>
    match simpleEscapes.lookup p.char with
    | some n => some (Char.ofNat n, rest)
    | none => do
      let length ← escapeLength? p.char
      let digits := (rest.take length).map (·.char)
      let n ← Numeral.ofDigits? Numeral.hexDigit? 16 digits
      if digits.length = length ∧ n < 0x110000 ∧ (n < 0xD800 ∨ 0xDFFF < n) then
        some (Char.ofNat n, rest.drop length)
      else none

/-- Reads the rest of a scalar in double quotation marks; `fuel` need not exceed the length of the
text. -/
def scanDouble? : Nat → List Char → Gap → List Spot → Option (String × List Spot)
  | 0, _, _, _ => none
  | _ + 1, _, _, [] => none
  | fuel + 1, read, gap, p :: rest =>
    if atDocumentMark (p :: rest) then none
    else if isBlank p.char then scanDouble? fuel read (gap.addBlank p.char) rest
    else if isBreak p.char then scanDouble? fuel read (gap.addBreak p.char) rest
    else
      let read := gap.reversed ++ read
      if p.char = '"' then some (String.ofList read.reverse, rest)
      else if p.char = '\\' then
        match rest with
        | [] => none
        | q :: after =>
          if isBreak q.char then scanDouble? fuel read .escapedBreak after
          else
            match scanEscape? rest with
            | some (c, rest) => scanDouble? fuel (c :: read) .empty rest
            | none => none
      else scanDouble? fuel (p.char :: read) .empty rest

end Yaml

end Dashboard
