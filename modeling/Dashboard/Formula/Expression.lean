import Dashboard.Binary64.Arithmetic
import Dashboard.Decimal.Basic
import Dashboard.Text.Bytes

/-!
# Formula.Expression · arithmetic on numbers

```text
expression := term (('+' | '-') term)*
term       := factor (('*' | '/' | '%') factor)*
factor     := '(' expression ')' | '-' factor | literal
```

A literal is a run of digits and points that is one decimal. ASCII white space may stand between
the parts. Division and remainder by zero give zero.

* **`evaluate`** gives the value of a text or the first error in it.
* The parser goes through the bytes of the text. A **`Reader`** starts at a position, and it says
  where it ended, with a value or with an error.
* **`Parser.unexpected`** reports a character. If no text starts at the position, the byte there is
  taken for a character of its own.
* **`Parser.factor permits`** may open `permits` more parentheses and minus signs.
-/

namespace Dashboard

/-- Why a text is no expression. Positions count bytes from the start of the text. -/
inductive FormulaError where
  | unexpectedEnd
  | unexpectedChar (c : Char) (position : Nat)
  | invalidNumber (literal : String)
  | unmatchedParen (position : Nat)
  | tooDeep
deriving DecidableEq, Repr

/-- The message of an error. -/
def FormulaError.message : FormulaError → String
  | .unexpectedEnd => "unexpected end of formula"
  | .unexpectedChar c position =>
    "unexpected '" ++ String.singleton c ++ "' at position " ++ toString position
  | .invalidNumber literal => "invalid number: " ++ literal
  | .unmatchedParen position => "unmatched parenthesis at position " ++ toString position
  | .tooDeep => "formula nested too deeply"

namespace Formula

/-! ## Operators -/

/-- The quotient, zero if the divisor is zero. -/
def quotient (x y : Binary64) : Binary64 := if y.isZero then .zero false else x / y

/-- The remainder, zero if the divisor is zero. -/
def remainder (x y : Binary64) : Binary64 := if y.isZero then .zero false else x % y

/-- The operations between terms. -/
def sumOperator? (c : Char) : Option (Binary64 → Binary64 → Binary64) :=
  if c = '+' then some (· + ·) else if c = '-' then some (· - ·) else none

/-- The operations between factors. -/
def productOperator? (c : Char) : Option (Binary64 → Binary64 → Binary64) :=
  if c = '*' then some (· * ·)
  else if c = '/' then some quotient
  else if c = '%' then some remainder
  else none

/-! ## Characters -/

/-- The white space between the parts of an expression. -/
def isSpace (c : Char) : Bool :=
  c == ' ' || c == '\t' || c == '\n' || c == '\r' || c == Char.ofNat 12

/-- Whether a character belongs to a literal. -/
def isLiteralChar (c : Char) : Bool := c.isDigit || c == '.'

/-- The character that starts at a position; none if the bytes from there on are no text, or if
there are none. -/
def charAt? (input : List UInt8) (position : Nat) : Option Char :=
  (Text.ofBytes? (input.drop position)).bind List.head?

/-! ## Readers -/

/-- A reader starts at a position and ends at one, with a value or with an error. -/
abbrev Reader := EStateM FormulaError Nat

/-- How many parentheses and minus signs may be open at a time. -/
def maxDepth : Nat := 256

namespace Parser

section

variable (input : List UInt8)

/-- The byte at the position. -/
def peek : Reader (Option UInt8) := do return input[← get]?

/-- Goes on by one byte. -/
def advance : Reader Unit := modify (· + 1)

/-- Goes on over white space. -/
def skipSpace : Reader Unit := modify (Text.skipWhile (fun b => isSpace (Char.ofUInt8 b)) input)

/-- Fails at a byte that does not belong there, with the character that starts there. -/
def unexpected (b : UInt8) : Reader Binary64 := do
  let position ← get
  throw (.unexpectedChar ((charAt? input position).getD (Char.ofUInt8 b)) position)

/-- Reads a literal: the whole run of digits and points has to be one decimal. -/
def number : Reader Binary64 := do
  let run := (input.drop (← get)).takeWhile fun b => isLiteralChar (Char.ofUInt8 b)
  modify (· + run.length)
  match Decimal.ofChars? (run.map Char.ofUInt8) with
  | some d => return d.toBinary64
  | none => throw (.invalidNumber (String.ofList (run.map Char.ofUInt8)))

/-- Reads operators with their right operands and applies them from the left to `value`. The list
bounds the number of operators: it need not be longer than the text. -/
def chainFrom (operator? : Char → Option (Binary64 → Binary64 → Binary64))
    (operand : Reader Binary64) : List UInt8 → Binary64 → Reader Binary64
  | [], value => return value
  | _ :: bound, value => do
    skipSpace input
    match (← peek input).bind fun b => operator? (Char.ofUInt8 b) with
    | none => return value
    | some op =>
      advance
      let right ← operand
      chainFrom operator? operand bound (op value right)

/-- Reads operands with operators between them. -/
def chain (operator? : Char → Option (Binary64 → Binary64 → Binary64))
    (operand : Reader Binary64) : Reader Binary64 := do
  let value ← operand
  chainFrom input operator? operand input value

/-- Reads an expression whose factors are read by `factor`. -/
def expressionOf (factor : Reader Binary64) : Reader Binary64 :=
  chain input sumOperator? (chain input productOperator? factor)

/-- Reads what a parenthesis or a minus sign has opened; without a reader none may be opened. -/
def nested (reader : Option (Reader Binary64)) : Reader Binary64 :=
  match reader with
  | some reader => reader
  | none => throw .tooDeep

/-- Reads an expression in parentheses, the first of which stands at the position. -/
def group (expression : Option (Reader Binary64)) : Reader Binary64 := do
  let opening ← get
  advance
  let value ← nested expression
  skipSpace input
  if (← peek input) = some ')'.toUInt8 then
    advance
    return value
  else throw (.unmatchedParen opening)

/-- Reads a minus sign, which stands at the position, and the factor behind it. -/
def negated (factor : Option (Reader Binary64)) : Reader Binary64 := do
  advance
  let value ← nested factor
  return -value

/-- Reads a factor, where `inner` reads the factors inside a parenthesis or after a minus sign. -/
def factorOf (inner : Option (Reader Binary64)) : Reader Binary64 := do
  skipSpace input
  match ← peek input with
  | none => throw .unexpectedEnd
  | some b =>
    if Char.ofUInt8 b = '(' then group input (inner.map (expressionOf input))
    else if Char.ofUInt8 b = '-' then negated inner
    else if isLiteralChar (Char.ofUInt8 b) then number input
    else unexpected input b

/-- Reads a factor in which at most `permits` parentheses and minus signs are open at a time. -/
def factor : Nat → Reader Binary64
  | 0 => factorOf input none
  | permits + 1 => factorOf input (some (factor permits))

/-- Reads an expression up to the end of the text. -/
def parse : Reader Binary64 := do
  let value ← expressionOf input (factor input maxDepth)
  skipSpace input
  match ← peek input with
  | none => return value
  | some b => unexpected input b

end

/-- What a reader ended with, without its position. -/
def result : EStateM.Result FormulaError Nat Binary64 → Except FormulaError Binary64
  | .ok value _ => .ok value
  | .error fault _ => .error fault

end Parser

/-- The value of a text, or the first error in it. -/
def evaluate (text : String) : Except FormulaError Binary64 :=
  Parser.result ((Parser.parse (Text.bytes text.toList)).run 0)

end Formula

end Dashboard
