import Dashboard.Binary64.Rounding

/-!
# Decimal · decimal literals and the numbers they denote

* **`Decimal`** is `coefficient * 10 ^ exponent` with a sign.
* **`Decimal.toBinary64`** is the double nearest to it. Exponents far outside the range of a double
  are answered without computing the power.
* **`Decimal.scan`** reads the longest literal at the head of a text: an optional sign, digits with
  an optional point (at least one digit on one side of it), and an exponent if it is complete.
-/

namespace Dashboard

/-- The decimal `coefficient * 10 ^ exponent`, with a sign. -/
structure Decimal where
  /-- Whether a minus sign stands before it. -/
  negative : Bool
  /-- The digits without the point. -/
  coefficient : Nat
  /-- The power of ten. -/
  exponent : Int
deriving DecidableEq, Repr

namespace Decimal

/-- The natural number that a list of decimal digits writes. -/
def ofDigits (digits : List Char) : Nat := Nat.ofDigitChars 10 digits 0

/-- The decimal digits of a natural number. -/
def digits (n : Nat) : List Char := Nat.toDigits 10 n

/-- The double nearest to a decimal. A coefficient of `n` digits lies from `10 ^ (n - 1)` up to
`10 ^ n`, so the value overflows if `n + exponent` is over 310, and rounds to zero if it is under
`-330`. -/
def toBinary64 (d : Decimal) : Binary64 :=
  if d.coefficient = 0 then .zero d.negative
  else
    let size : Int := (digits d.coefficient).length + d.exponent
    if 310 < size then .infinite d.negative
    else if size < -330 then .zero d.negative
    else match d.exponent with
      | .ofNat e => .ofUnits d.negative (d.coefficient * 10 ^ e * Binary64.unitsPerOne) 1
      | .negSucc e => .ofUnits d.negative (d.coefficient * Binary64.unitsPerOne) (10 ^ (e + 1))

/-! ## Reading a literal -/

/-- Splits off the leading decimal digits. -/
def scanDigits (s : List Char) : List Char × List Char :=
  (s.takeWhile Char.isDigit, s.dropWhile Char.isDigit)

/-- Splits off a sign; without one the sign is positive. -/
def scanSign : List Char → Bool × List Char
  | '+' :: s => (false, s)
  | '-' :: s => (true, s)
  | s => (false, s)

/-- Splits off a complete exponent: `e` or `E`, an optional sign, and at least one digit. Without
one the exponent is `0` and nothing is taken. -/
def scanExponent (s : List Char) : Int × List Char :=
  match s with
  | c :: r =>
    if c = 'e' ∨ c = 'E' then
      let (negative, body) := scanSign r
      let (digits, rest) := scanDigits body
      if digits.isEmpty then (0, s)
      else (if negative then -(ofDigits digits : Int) else ofDigits digits, rest)
    else (0, s)
  | [] => (0, [])

/-- Splits off a point and the digits after it. A point without digits on either side is left. -/
def scanFraction (whole : List Char) (s : List Char) : List Char × List Char :=
  match s with
  | '.' :: r =>
    let (digits, rest) := scanDigits r
    if whole.isEmpty && digits.isEmpty then ([], s) else (digits, rest)
  | _ => ([], s)

/-- The longest literal at the head of a text, and the text after it. -/
def scan (s : List Char) : Option (Decimal × List Char) :=
  let (negative, body) := scanSign s
  let (whole, afterWhole) := scanDigits body
  let (fraction, afterFraction) := scanFraction whole afterWhole
  if whole.isEmpty && fraction.isEmpty then none
  else
    let (exponent, rest) := scanExponent afterFraction
    some (⟨negative, ofDigits (whole ++ fraction), exponent - fraction.length⟩, rest)

/-- The decimal that a whole text writes, if it is one literal. -/
def ofChars? (s : List Char) : Option Decimal :=
  match scan s with
  | some (d, []) => some d
  | _ => none

end Decimal

end Dashboard
