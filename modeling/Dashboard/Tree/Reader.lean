import Dashboard.Decimal.Basic
import Dashboard.Numeral
import Dashboard.Tree.Basic

/-!
# Tree.Reader · reading JSON

* **`Tree.ofJson?`** reads one document and nothing after it. Lists and objects may be nested 127
  deep.
* A number without point and exponent that fits 64 bits becomes `integer`, except `-0`; every other
  number becomes `real`, and one that is too large for a double is refused.
* An escape of half a surrogate pair is refused, and so is a control character in a string.

The scanners take a text and give what they read together with the text after it. Where one repeats
a step that reads at least a character, its first argument bounds the number of steps: any list that
is not shorter than the text will do, and the text itself is at hand.
-/

namespace Dashboard

namespace Tree

/-- The white space of JSON. -/
def isJsonBlank (c : Char) : Bool := c == ' ' || c == '\n' || c == '\t' || c == '\r'

/-- A text without its leading white space. -/
def skipJsonBlank (s : List Char) : List Char := s.dropWhile isJsonBlank

/-! ## Strings -/

/-- Reads four hexadecimal digits. -/
def scanHex4? : List Char → Option (Nat × List Char)
  | a :: b :: c :: d :: s => do
    let n ← Numeral.ofDigits? Numeral.hexDigit? 16 [a, b, c, d]
    some (n, s)
  | _ => none

/-- Reads what follows the mark `u` of an escape: one code unit, or two that form a pair. -/
def scanUnicodeEscape? (s : List Char) : Option (Char × List Char) := do
  let (unit, s) ← scanHex4? s
  if 0xDC00 ≤ unit ∧ unit ≤ 0xDFFF then none
  else if 0xD800 ≤ unit ∧ unit ≤ 0xDBFF then
    match s with
    | '\\' :: 'u' :: s => do
      let (second, s) ← scanHex4? s
      if 0xDC00 ≤ second ∧ second ≤ 0xDFFF then
        some (Char.ofNat (0x10000 + (unit - 0xD800) * 0x400 + (second - 0xDC00)), s)
      else none
    | _ => none
  else some (Char.ofNat unit, s)

/-- Reads what follows the reverse solidus of an escape. -/
def scanEscape? : List Char → Option (Char × List Char)
  | '"' :: s => some ('"', s)
  | '\\' :: s => some ('\\', s)
  | '/' :: s => some ('/', s)
  | 'b' :: s => some (Char.ofNat 8, s)
  | 'f' :: s => some (Char.ofNat 12, s)
  | 'n' :: s => some ('\n', s)
  | 'r' :: s => some ('\r', s)
  | 't' :: s => some ('\t', s)
  | 'u' :: s => scanUnicodeEscape? s
  | _ => none

/-- Reads the rest of a string up to its closing mark. The characters read so far are in reverse
order. -/
def scanString? : List Char → List Char → List Char → Option (String × List Char)
  | [], _, _ => none
  | _ :: _, _, [] => none
  | _ :: bound, read, c :: s =>
    if c = '"' then some (String.ofList read.reverse, s)
    else if c = '\\' then
      match scanEscape? s with
      | some (e, s) => scanString? bound (e :: read) s
      | none => none
    else if c.toNat < 32 then none
    else scanString? bound (c :: read) s

/-! ## Numbers -/

/-- Reads the whole part of a number: one zero, or digits that do not begin with zero. -/
def scanWhole? (s : List Char) : Option (List Char × List Char) :=
  match s with
  | '0' :: r => some (['0'], r)
  | _ =>
    let (digits, rest) := Decimal.scanDigits s
    if digits.isEmpty then none else some (digits, rest)

/-- Reads a point and at least one digit, if there is a point. -/
def scanPlaces? : List Char → Option (Option (List Char) × List Char)
  | '.' :: s =>
    let (digits, rest) := Decimal.scanDigits s
    if digits.isEmpty then none else some (some digits, rest)
  | s => some (none, s)

/-- Reads a complete exponent, if there is the mark of one. -/
def scanPower? : List Char → Option (Option Int × List Char)
  | c :: s =>
    if c = 'e' ∨ c = 'E' then
      let (negative, body) := Decimal.scanSign s
      let (digits, rest) := Decimal.scanDigits body
      if digits.isEmpty then none
      else
        let n : Int := Decimal.ofDigits digits
        some (some (if negative then -n else n), rest)
    else some (none, c :: s)
  | [] => some (none, [])

/-- The tree of a number that is written as `whole` with a sign. -/
def ofWhole (negative : Bool) (digits : List Char) : Option Tree :=
  let n := Decimal.ofDigits digits
  let fits := if negative then 0 < n ∧ n ≤ 2 ^ (63 : Nat) else n < 2 ^ (64 : Nat)
  if fits then some (.integer (if negative then -(n : Int) else n))
  else
    let x := Decimal.toBinary64 ⟨negative, n, 0⟩
    if x.isFinite then some (.real x) else none

/-- Reads a number after its sign. -/
def scanUnsigned? (negative : Bool) (s : List Char) : Option (Tree × List Char) := do
  let (whole, s) ← scanWhole? s
  let (places, s) ← scanPlaces? s
  let (power, s) ← scanPower? s
  if places.isNone && power.isNone then
    let t ← ofWhole negative whole
    some (t, s)
  else
    let fraction := places.getD []
    let d : Decimal := ⟨negative, Decimal.ofDigits (whole ++ fraction),
      power.getD 0 - fraction.length⟩
    let x := d.toBinary64
    if x.isFinite then some (.real x, s) else none

/-- Reads a number. -/
def scanNumber? : List Char → Option (Tree × List Char)
  | '-' :: s => scanUnsigned? true s
  | s => scanUnsigned? false s

/-! ## Documents -/

/-- Reads the further parts of a list or an object after one part, up to the closing mark. -/
def scanFurther? {α : Type} (closing : Char) (scanOne : List Char → Option (α × List Char)) :
    List Char → List Char → Option (List α × List Char)
  | [], _ => none
  | _ :: bound, s =>
    match skipJsonBlank s with
    | [] => none
    | c :: s =>
      if c = closing then some ([], s)
      else if c = ',' then do
        let (part, s) ← scanOne s
        let (rest, s) ← scanFurther? closing scanOne bound s
        some (part :: rest, s)
      else none

/-- Reads the parts of a list or an object after its opening mark, up to the closing mark. -/
def scanParts? {α : Type} (closing : Char) (scanOne : List Char → Option (α × List Char))
    (s : List Char) : Option (List α × List Char) :=
  match skipJsonBlank s with
  | [] => none
  | c :: r =>
    if c = closing then some ([], r)
    else do
      let (part, s) ← scanOne s
      let (rest, s) ← scanFurther? closing scanOne s s
      some (part :: rest, s)

/-- Reads a name, a colon and a document. -/
def scanMember? (scanOne : List Char → Option (Tree × List Char)) (s : List Char) :
    Option ((String × Tree) × List Char) :=
  match skipJsonBlank s with
  | '"' :: s => do
    let (name, s) ← scanString? s [] s
    match skipJsonBlank s with
    | ':' :: s => do
      let (t, s) ← scanOne s
      some ((name, t), s)
    | _ => none
  | _ => none

/-- Reads a document, where lists and objects are read by `nested`. -/
def scanWith? (nested : Option (List Char → Option (Tree × List Char))) (s : List Char) :
    Option (Tree × List Char) :=
  match skipJsonBlank s with
  | 'n' :: 'u' :: 'l' :: 'l' :: s => some (.null, s)
  | 't' :: 'r' :: 'u' :: 'e' :: s => some (.bool true, s)
  | 'f' :: 'a' :: 'l' :: 's' :: 'e' :: s => some (.bool false, s)
  | '"' :: s => do
    let (value, s) ← scanString? s [] s
    some (.text value, s)
  | '[' :: s => do
    let (items, s) ← scanParts? ']' (← nested) s
    some (.list items, s)
  | '\x7b' :: s => do
    let (members, s) ← scanParts? '\x7d' (scanMember? (← nested)) s
    some (.object members, s)
  | s => scanNumber? s

/-- Reads a document in which lists and objects are nested at most `depth` deep. -/
def scan? : Nat → List Char → Option (Tree × List Char)
  | 0 => scanWith? none
  | depth + 1 => scanWith? (some (scan? depth))

/-- The greatest depth of nesting. -/
def maxDepth : Nat := 127

/-- The document that a text writes. -/
def ofJsonChars? (s : List Char) : Option Tree :=
  match scan? maxDepth s with
  | some (t, rest) => if (skipJsonBlank rest).isEmpty then some t else none
  | none => none

/-- The document that a string writes. -/
def ofJson? (s : String) : Option Tree := ofJsonChars? s.toList

end Tree

end Dashboard
