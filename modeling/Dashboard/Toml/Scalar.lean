import Dashboard.Calendar.Layout
import Dashboard.Decimal.Basic
import Dashboard.Numeral
import Dashboard.Tree.Basic

/-!
# Toml.Scalar · words and strings

* **`word?`** types a word that is not in quotation marks: a truth value, an integer of 64 bits, a
  finite number, infinity, a not-a-number, or a date or time, which is kept as text.
* **`scanBasic?`** and **`scanLiteral?`** read strings on one line, **`scanBasicLines?`** and
  **`scanLiteralLines?`** strings that may run over several.
-/

namespace Dashboard

namespace Toml

/-! ## Numbers -/

/-- Whether a character is a digit of a base up to 16. -/
def isDigitOf (base : Nat) (c : Char) : Bool := (Numeral.hexDigit? c).any (· < base)

/-- The digits of a text in which single underscores may stand between digits. -/
def digits? (base : Nat) : List Char → Option (List Char)
  | [] => none
  | [c] => if isDigitOf base c then some [c] else none
  | c :: '_' :: rest => if isDigitOf base c then (digits? base rest).map (c :: ·) else none
  | c :: rest => if isDigitOf base c then (digits? base rest).map (c :: ·) else none

/-- The digits of a decimal number without a leading zero. -/
def wholeDigits? (s : List Char) : Option (List Char) :=
  (digits? 10 s).filter fun digits => digits.head? ≠ some '0' ∨ s.length = 1

/-- The natural number in a base given by its mark. -/
def basedInteger? (s : List Char) : Option Nat :=
  match s with
  | '0' :: 'x' :: r => (digits? 16 r).bind (Numeral.ofDigits? Numeral.hexDigit? 16)
  | '0' :: 'o' :: r => (digits? 8 r).bind (Numeral.ofDigits? Numeral.hexDigit? 8)
  | '0' :: 'b' :: r => (digits? 2 r).bind (Numeral.ofDigits? Numeral.hexDigit? 2)
  | _ => none

/-- The integer that a word writes, of any size. -/
def integer? (s : List Char) : Option Int :=
  match basedInteger? s with
  | some n => some n
  | none =>
    let (negative, body) := Decimal.scanSign s
    (wholeDigits? body).map fun digits =>
      if negative then -(Decimal.ofDigits digits : Int) else Decimal.ofDigits digits

/-- The digits of an exponent after its letter, with the sign. -/
def exponent? (s : List Char) : Option (List Char) :=
  let sign := s.take (if (Decimal.scanSign s).2.length < s.length then 1 else 0)
  (digits? 10 (Decimal.scanSign s).2).map fun digits => 'e' :: (sign ++ digits)

/-- Whether a character marks an exponent. -/
def isExponentMark (c : Char) : Bool := c == 'e' || c == 'E'

/-- What follows the whole part of a number with a point or an exponent. -/
def fraction? (s : List Char) : Option (List Char) :=
  match s with
  | '.' :: r => do
    let digits ← digits? 10 (r.takeWhile fun c => !isExponentMark c)
    match r.dropWhile fun c => !isExponentMark c with
    | [] => some ('.' :: digits)
    | _ :: e => (exponent? e).map fun e => '.' :: (digits ++ e)
  | c :: r => if isExponentMark c then exponent? r else none
  | [] => none

/-- The finite number that a word with a point or an exponent writes. -/
def real? (s : List Char) : Option Binary64 := do
  let (negative, body) := Decimal.scanSign s
  let isWhole := fun c => isDigitOf 10 c || c == '_'
  let whole ← wholeDigits? (body.takeWhile isWhole)
  let fraction ← fraction? (body.dropWhile isWhole)
  let d ← Decimal.ofChars? (whole ++ fraction)
  let x := { d with negative := negative }.toBinary64
  if x.isFinite then some x else none

/-! ## Dates and times -/

/-- Splits off exactly `count` digits with a value in a range. -/
def scanPart? (count low high : Nat) (s : List Char) : Option (Nat × List Char) :=
  (Calendar.scanFixed? count s).filter fun (n, _) => low ≤ n ∧ n ≤ high

/-- Splits off a date. -/
def scanDate? (s : List Char) : Option (List Char) := do
  let (year, s) ← Calendar.scanFixed? 4 s
  let s ← Calendar.dropMark? '-' s
  let (month, s) ← scanPart? 2 1 12 s
  let s ← Calendar.dropMark? '-' s
  let (_, s) ← scanPart? 2 1 (Calendar.daysInMonth year month) s
  some s

/-- Splits off a time. -/
def scanTime? (s : List Char) : Option (List Char) := do
  let (_, s) ← scanPart? 2 0 23 s
  let s ← Calendar.dropMark? ':' s
  let (_, s) ← scanPart? 2 0 59 s
  let s ← Calendar.dropMark? ':' s
  let (_, s) ← scanPart? 2 0 60 s
  let (_, s) ← Calendar.scanFraction? s
  some s

/-- Whether nothing or an offset from universal time is left. -/
def isOffset (s : List Char) : Bool :=
  s.isEmpty || (s.head? ≠ some '−' && Calendar.dropOffset? s == some [])

/-- Whether a word is a time, a date, or a date with a time. -/
def isTimestamp (s : List Char) : Bool :=
  scanTime? s == some [] ||
    match scanDate? s with
    | some [] => true
    | some (c :: s) =>
      (c == 'T' || c == 't' || c == ' ') && ((scanTime? s).any isOffset)
    | none => false

/-! ## Words -/

/-- The words with a meaning of their own. -/
def words : List (String × Tree) :=
  [("true", .bool true), ("false", .bool false), ("inf", .real (.infinite false)),
    ("+inf", .real (.infinite false)), ("-inf", .real (.infinite true)), ("nan", .real .quietNaN),
    ("+nan", .real .quietNaN), ("-nan", .real .quietNaN)]

/-- The value of a word that is not in quotation marks. -/
def word? (s : List Char) : Option Tree :=
  match words.lookup (String.ofList s) with
  | some t => some t
  | none =>
    match integer? s with
    | some i =>
      if Binary64.int64Min ≤ i ∧ i ≤ Binary64.int64Max then some (.integer i) else none
    | none =>
      match real? s with
      | some x => some (.real x)
      | none => if isTimestamp s then some (.text (String.ofList s)) else none

/-- Whether a character may stand in a word. -/
def isWordChar (c : Char) : Bool :=
  c.isAlphanum || c == '_' || c == '+' || c == '-' || c == '.' || c == ':'

/-- Splits off a word. A blank between a date and a time belongs to the word. -/
def scanWord (s : List Char) : List Char × List Char :=
  let first := s.takeWhile isWordChar
  let rest := s.dropWhile isWordChar
  match rest with
  | ' ' :: after =>
    let second := after.takeWhile isWordChar
    if scanDate? first = some [] ∧ isTimestamp (first ++ ' ' :: second) then
      (first ++ ' ' :: second, after.dropWhile isWordChar)
    else (first, rest)
  | _ => (first, rest)

/-! ## Strings -/

/-- Whether a character may stand in a line: no control character but tab. -/
def isLineChar (c : Char) : Bool := c == '\t' || (32 ≤ c.toNat && c.toNat != 127)

/-- The characters that escapes of one character stand for. -/
def simpleEscapes : List (Char × Char) :=
  [('b', Char.ofNat 8), ('t', '\t'), ('n', '\n'), ('f', Char.ofNat 12), ('r', '\r'), ('"', '"'),
    ('\\', '\\')]

/-- Reads the hexadecimal digits of an escape. -/
def scanCode? (count : Nat) (s : List Char) : Option (Char × List Char) := do
  let digits := s.take count
  let n ← Numeral.ofDigits? Numeral.hexDigit? 16 digits
  if digits.length = count ∧ n < 0x110000 ∧ (n < 0xD800 ∨ 0xDFFF < n) then
    some (Char.ofNat n, s.drop count)
  else none

/-- Reads what follows the reverse solidus of an escape. -/
def scanEscape? : List Char → Option (Char × List Char)
  | [] => none
  | c :: s =>
    match simpleEscapes.lookup c with
    | some e => some (e, s)
    | none => if c = 'u' then scanCode? 4 s else if c = 'U' then scanCode? 8 s else none

/-- Reads the rest of a string in quotation marks; `fuel` need not exceed the length of the text. -/
def scanBasic? : Nat → List Char → List Char → Option (String × List Char)
  | 0, _, _ => none
  | _ + 1, _, [] => none
  | _ + 1, read, '"' :: s => some (String.ofList read.reverse, s)
  | fuel + 1, read, '\\' :: s => do
    let (c, s) ← scanEscape? s
    scanBasic? fuel (c :: read) s
  | fuel + 1, read, c :: s => if isLineChar c then scanBasic? fuel (c :: read) s else none

/-- Reads the rest of a string in single quotation marks. -/
def scanLiteral? : List Char → List Char → Option (String × List Char)
  | _, [] => none
  | read, c :: s =>
    if c = '\'' then some (String.ofList read.reverse, s)
    else if isLineChar c then scanLiteral? (c :: read) s
    else none

/-- Splits off a line end. -/
def dropNewLine? : List Char → Option (List Char)
  | '\n' :: s => some s
  | '\r' :: '\n' :: s => some s
  | _ => none

/-- A text without a line end at its head. -/
def dropFirstNewLine (s : List Char) : List Char := (dropNewLine? s).getD s

/-- Reads the marks at the end of a string over several lines: three of them close it, and up to two
more before those belong to it. Gives how many belong to it. -/
def closing? (mark : Char) (s : List Char) : Option (Nat × List Char) :=
  let marks := (s.takeWhile (· == mark)).length
  if marks < 3 then none
  else if marks ≤ 5 then some (marks - 3, s.drop marks)
  else some (2, s.drop 5)

/-- Whether a character is a blank or a tab. -/
def isBlank (c : Char) : Bool := c == ' ' || c == '\t'

/-- Splits off blanks, a line end, and then all blanks and line ends. -/
def dropLineEscape? (s : List Char) : Option (List Char) :=
  (dropNewLine? (s.dropWhile isBlank)).map fun s =>
    s.dropWhile fun c => isBlank c || c == '\n' || c == '\r'

/-- Reads the rest of a string over several lines in quotation marks. -/
def scanBasicLines? : Nat → List Char → List Char → Option (String × List Char)
  | 0, _, _ => none
  | _ + 1, _, [] => none
  | fuel + 1, read, c :: s =>
    match closing? '"' (c :: s) with
    | some (more, s) => some (String.ofList (read.reverse ++ List.replicate more '"'), s)
    | none =>
      if c = '\\' then
        match dropLineEscape? s with
        | some s => scanBasicLines? fuel read s
        | none =>
          match scanEscape? s with
          | some (e, s) => scanBasicLines? fuel (e :: read) s
          | none => none
      else
        match dropNewLine? (c :: s) with
        | some s => scanBasicLines? fuel ('\n' :: read) s
        | none => if isLineChar c then scanBasicLines? fuel (c :: read) s else none

/-- Reads the rest of a string over several lines in single quotation marks. -/
def scanLiteralLines? : Nat → List Char → List Char → Option (String × List Char)
  | 0, _, _ => none
  | _ + 1, _, [] => none
  | fuel + 1, read, c :: s =>
    match closing? '\'' (c :: s) with
    | some (more, s) => some (String.ofList (read.reverse ++ List.replicate more '\''), s)
    | none =>
      match dropNewLine? (c :: s) with
      | some s => scanLiteralLines? fuel ('\n' :: read) s
      | none => if isLineChar c then scanLiteralLines? fuel (c :: read) s else none

/-- Reads a string with its marks. -/
def scanString? (s : List Char) : Option (String × List Char) :=
  match s with
  | '"' :: '"' :: '"' :: r => scanBasicLines? (r.length + 1) [] (dropFirstNewLine r)
  | '\'' :: '\'' :: '\'' :: r => scanLiteralLines? (r.length + 1) [] (dropFirstNewLine r)
  | '"' :: r => scanBasic? (r.length + 1) [] r
  | '\'' :: r => scanLiteral? [] r
  | _ => none

end Toml

end Dashboard
