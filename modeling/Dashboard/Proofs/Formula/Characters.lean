import Dashboard.Formula.Expression

/-!
# Formula.Characters · the readers of expressions over characters

The parser goes through bytes by position. The readers here take a text instead and give a value and
the text after it, so that what they accept can be compared with a grammar.

* A **`Fault`** holds the text that remains where reading stopped; **`Fault.error`** turns that into
  a position in bytes.
* **`factor permits`** reads a factor, **`expressionOf`** an expression, **`read`** a whole text.
-/

namespace Dashboard

namespace Formula

/-- Where and why reading stopped. -/
inductive Fault where
  /-- The text ended where a factor had to begin. -/
  | unexpectedEnd
  /-- The first character of the remaining text does not belong there. -/
  | unexpected (rest : List Char)
  /-- A run of digits and points is no decimal. -/
  | invalidNumber (literal : List Char)
  /-- The parenthesis at the head of this text is not closed. -/
  | unmatched (rest : List Char)
  /-- Too many parentheses and minus signs are open. -/
  | tooDeep
deriving DecidableEq, Repr

/-- What a reader gives: a value and the text after it, or a fault. -/
abbrev Outcome := Except Fault (Binary64 × List Char)

/-- The position of the end part `rest` of `text`. -/
def position (text rest : List Char) : Nat := (Text.bytes text).length - (Text.bytes rest).length

/-- The error that a fault in `text` is reported as. -/
def Fault.error (text : List Char) : Fault → FormulaError
  | .unexpectedEnd => .unexpectedEnd
  | .unexpected rest =>
    match rest with
    | c :: _ => .unexpectedChar c (position text rest)
    | [] => .unexpectedEnd
  | .invalidNumber literal => .invalidNumber (String.ofList literal)
  | .unmatched rest => .unmatchedParen (position text rest)
  | .tooDeep => .tooDeep

/-! ## Readers -/

/-- A text without its leading white space. -/
def skipSpace (s : List Char) : List Char := s.dropWhile isSpace

/-- Reads a literal: the whole run of digits and points has to be one decimal. -/
def literal (s : List Char) : Outcome :=
  let run := s.takeWhile isLiteralChar
  match Decimal.ofChars? run with
  | some d => .ok (d.toBinary64, s.dropWhile isLiteralChar)
  | none => .error (.invalidNumber run)

/-- Reads operators with their right operands and applies them from the left to `value`. The first
list bounds the number of operators: it need not be longer than the text. -/
def chainFrom (operator? : Char → Option (Binary64 → Binary64 → Binary64))
    (operand : List Char → Outcome) : List Char → Binary64 → List Char → Outcome
  | [], value, s => .ok (value, s)
  | _ :: bound, value, s =>
    match skipSpace s with
    | [] => .ok (value, [])
    | c :: rest =>
      match operator? c with
      | none => .ok (value, c :: rest)
      | some op =>
        match operand rest with
        | .ok (right, rest) => chainFrom operator? operand bound (op value right) rest
        | .error fault => .error fault

/-- Reads operands with operators between them. -/
def chain (operator? : Char → Option (Binary64 → Binary64 → Binary64))
    (operand : List Char → Outcome) (s : List Char) : Outcome :=
  match operand s with
  | .ok (value, rest) => chainFrom operator? operand rest value rest
  | .error fault => .error fault

/-- Reads an expression whose factors are read by `factor`. -/
def expressionOf (factor : List Char → Outcome) : List Char → Outcome :=
  chain sumOperator? (chain productOperator? factor)

/-- Reads a factor, where `inner` reads the factors inside a parenthesis or after a minus sign;
without it none may be opened. -/
def factorOf (inner : Option (List Char → Outcome)) (s : List Char) : Outcome :=
  match skipSpace s with
  | [] => .error .unexpectedEnd
  | c :: rest =>
    if c = '(' then
      match inner with
      | none => .error .tooDeep
      | some inner =>
        match expressionOf inner rest with
        | .error fault => .error fault
        | .ok (value, after) =>
          match skipSpace after with
          | ')' :: after => .ok (value, after)
          | _ => .error (.unmatched (c :: rest))
    else if c = '-' then
      match inner with
      | none => .error .tooDeep
      | some inner =>
        match inner rest with
        | .error fault => .error fault
        | .ok (value, after) => .ok (-value, after)
    else if isLiteralChar c then literal (c :: rest)
    else .error (.unexpected (c :: rest))

/-- Reads a factor in which at most `permits` parentheses and minus signs are open at a time. -/
def factor : Nat → List Char → Outcome
  | 0 => factorOf none
  | permits + 1 => factorOf (some (factor permits))

/-- Reads a whole text as an expression. -/
def read (s : List Char) : Except Fault Binary64 :=
  match expressionOf (factor maxDepth) s with
  | .error fault => .error fault
  | .ok (value, rest) =>
    match skipSpace rest with
    | [] => .ok value
    | c :: rest => .error (.unexpected (c :: rest))

end Formula

end Dashboard
