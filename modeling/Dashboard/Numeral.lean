import Dashboard.Decimal.Layout
import Dashboard.Text.Blank
import Dashboard.Text.Bytes

/-!
# Numeral · numbers as loosely typed text

Cells arrive loosely typed, so one set of rules turns text into numbers for every engine.

* **`strict`** reads a whole text as one number: blank text is `0`, `Infinity` and hexadecimal
  literals are known, anything else that is not one decimal literal is not a number.
* **`leading?`** reads the longest number at the head of a text and ignores the rest. It looks for
  the end of the number byte by byte, cuts the text there and reads the part in front as a whole.
  **`scanLeading`** shows where this could go wrong: at a cut, or if the part is no literal.
* **`Binary64.plainText`** is the way back.
-/

namespace Dashboard

namespace Numeral

/-- The word for infinity. -/
def infinityWord : List Char := ['I', 'n', 'f', 'i', 'n', 'i', 't', 'y']

/-- The value of a hexadecimal digit of either case. -/
def hexDigit? (c : Char) : Option Nat :=
  if '0' ≤ c ∧ c ≤ '9' then some (c.toNat - '0'.toNat)
  else if 'a' ≤ c ∧ c ≤ 'f' then some (c.toNat - 'a'.toNat + 10)
  else if 'A' ≤ c ∧ c ≤ 'F' then some (c.toNat - 'A'.toNat + 10)
  else none

/-- The value of a nonempty list of digits in a base, where `digit?` reads one digit. -/
def ofDigits? (digit? : Char → Option Nat) (base : Nat) : List Char → Option Nat
  | [] => none
  | s => s.foldlM (fun n c => (digit? c).map (base * n + ·)) 0

/-- The digits of a hexadecimal literal after its mark, an optional plus sign before them, with a
value below `2 ^ 64`. -/
def hexadecimal? (s : List Char) : Option Nat :=
  let digits := match s with
    | '+' :: r => r
    | s => s
  (ofDigits? hexDigit? 16 digits).filter (· < 2 ^ (64 : Nat))

/-- The count that digits write, maybe after a plus sign, if it is below `2 ^ 64`. -/
def count? (s : List Char) : Option Nat :=
  let digits := match s with
    | '+' :: r => r
    | s => s
  if digits.isEmpty || !digits.all Char.isDigit then none
  else some (Decimal.ofDigits digits) |>.filter (· < 2 ^ (64 : Nat))

/-! ## Whole texts -/

/-- Whether a byte is that of a character of decimal literals. -/
def isLiteralByte (b : UInt8) : Bool :=
  Text.isDigitByte b || ['.', 'e', 'E', '+', '-'].any fun c => c.toUInt8 == b

/-- Reads a whole text as a double: a decimal literal, or a sign and one of the words `inf`,
`infinity` and `nan` in letters of either case. -/
def double? (s : List Char) : Option Binary64 :=
  let (negative, body) := Decimal.scanSign s
  let word := body.map Char.toLower
  if word = ['i', 'n', 'f'] ∨ word = ['i', 'n', 'f', 'i', 'n', 'i', 't', 'y'] then
    some (.infinite negative)
  else if word = ['n', 'a', 'n'] then
    some (if negative then -Binary64.quietNaN else Binary64.quietNaN)
  else (Decimal.ofChars? s).map Decimal.toBinary64

/-- Reads a trimmed, nonempty text as one number. Of the words for a double only `Infinity` counts,
so a text with a byte that is foreign to decimal literals is not a number. -/
def strictTrimmed (s : List Char) : Binary64 :=
  if s = infinityWord ∨ s = '+' :: infinityWord then .infinite false
  else if s = '-' :: infinityWord then .infinite true
  else match s with
    | '0' :: 'x' :: r => ((hexadecimal? r).map Binary64.ofNat).getD .quietNaN
    | '0' :: 'X' :: r => ((hexadecimal? r).map Binary64.ofNat).getD .quietNaN
    | s =>
      if (Text.bytes s).all isLiteralByte then (double? s).getD .quietNaN else .quietNaN

/-- Reads a whole text as one number; blank text is `0`. -/
def strictChars (s : List Char) : Binary64 :=
  let t := Text.trim s
  if t.isEmpty then .zero false else strictTrimmed t

/-- Reads a whole string as one number; a blank string is `0`. -/
def strict (s : String) : Binary64 := strictChars s.toList

/-! ## Leading numbers -/

/-- What would stop the reading of a leading number. -/
inductive ScanFault where
  /-- A cut beyond the end of the text or inside of a character. -/
  | cut (position : Nat)
  /-- A part that was scanned as a literal and is none. -/
  | literal (part : List Char)
deriving DecidableEq, Repr

/-- Cuts a text at a position. -/
def cutAt (s : List Char) (position : Nat) : Except ScanFault (List Char × List Char) :=
  match Text.cut? s position with
  | some parts => .ok parts
  | none => .error (.cut position)

/-- The position behind the digits and the point of a literal, where `start` is the position behind
its sign; none if there is no digit. -/
def mantissaEnd? (bytes : List UInt8) (start : Nat) : Option Nat :=
  let whole := Text.skipDigits bytes start
  if Text.standsAt ['.'] bytes whole then
    let fraction := Text.skipDigits bytes (whole + 1)
    if whole + 1 < fraction ∨ start < whole then some fraction else none
  else if start < whole then some whole else none

/-- The position behind the exponent that stands at a position; the position itself if no complete
exponent stands there. -/
def exponentEnd (bytes : List UInt8) (position : Nat) : Nat :=
  if Text.standsAt ['e', 'E'] bytes position then
    let start := Text.skipOne ['+', '-'] bytes (position + 1)
    let stop := Text.skipDigits bytes start
    if start < stop then stop else position
  else position

/-- A text without the points at its end. -/
def dropPoints (s : List Char) : List Char := (s.reverse.dropWhile (· == '.')).reverse

/-- Looks for the longest number at the head of a text, after white space, and reads it. -/
def scanLeading (s : List Char) : Except ScanFault (Option Binary64) := do
  let t := Text.trimStart s
  let bytes := Text.bytes t
  let start := Text.skipOne ['+', '-'] bytes 0
  let (_, body) ← cutAt t start
  if infinityWord.isPrefixOf body then
    return some (.infinite (['-'].isPrefixOf t))
  match mantissaEnd? bytes start with
  | none => return none
  | some position =>
    let (literal, _) ← cutAt t (exponentEnd bytes position)
    match double? (dropPoints literal) with
    | some x => return some x
    | none => throw (.literal literal)

/-- Reads the longest number at the head of a text, after white space. -/
def leadingChars? (s : List Char) : Option Binary64 :=
  match scanLeading s with
  | .ok x => x
  | .error _ => none

/-- Reads the longest number at the head of a string, after white space. -/
def leading? (s : String) : Option Binary64 := leadingChars? s.toList

end Numeral

end Dashboard
