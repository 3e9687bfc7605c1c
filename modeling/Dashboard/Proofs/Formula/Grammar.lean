import Dashboard.Formula.Expression
import Dashboard.Proofs.Decimal.Literal

/-!
# Formula.Grammar · the grammar of expressions, its trees and their values

```text
expression := term (('+' | '-') term)*
term       := factor (('*' | '/' | '%') factor)*
factor     := '(' expression ')' | '-' factor | leaf
```

The grammar is stated without reference to any reader.

* **`Expr α`** is the syntax tree over leaves of type `α`. It keeps its parentheses, so that
  **`Expr.depth`** counts how many parentheses and minus signs are open at a time.
* **`Derives leaf part s e`** says that the part of speech `part` derives the text `s` with tree
  `e`, where `leaf` says which texts spell a leaf. A repetition is a chain that grows on the right,
  so its tree leans to the left.
* **`Spells leaf s e`** adds the white space at the end of a whole text.
* **`Expr.eval`** is the value of a tree, given the values of its leaves.
-/

namespace Dashboard

namespace Formula

/-! ## Trees -/

/-- The operators that stand between two operands. -/
inductive Operator where
  | add
  | sub
  | mul
  | div
  | rem
deriving DecidableEq, Repr

/-- The parts of speech. -/
inductive Part where
  | factor
  | term
  | expression
deriving DecidableEq, Repr

namespace Operator

/-- The character that writes an operator. -/
def symbol : Operator → Char
  | .add => '+'
  | .sub => '-'
  | .mul => '*'
  | .div => '/'
  | .rem => '%'

/-- The part of speech that an operator chains: sums are expressions, products are terms. -/
def part : Operator → Part
  | .add | .sub => .expression
  | .mul | .div | .rem => .term

/-- The value of an operation. Division and remainder by a number that equals zero are zero. -/
def apply : Operator → Binary64 → Binary64 → Binary64
  | .add, x, y => x + y
  | .sub, x, y => x - y
  | .mul, x, y => x * y
  | .div, x, y => if y.same (.zero false) then .zero false else x / y
  | .rem, x, y => if y.same (.zero false) then .zero false else x % y

end Operator

/-- A syntax tree over leaves of type `α`. -/
inductive Expr (α : Type) where
  | leaf (a : α)
  /-- An expression in parentheses. -/
  | group (e : Expr α)
  /-- A factor after a minus sign. -/
  | negated (e : Expr α)
  | binary (op : Operator) (left right : Expr α)
deriving DecidableEq, Repr

namespace Expr

variable {α β : Type}

/-- How many parentheses and minus signs are open at a time. -/
def depth : Expr α → Nat
  | .leaf _ => 0
  | .group e => e.depth + 1
  | .negated e => e.depth + 1
  | .binary _ a b => max a.depth b.depth

/-- The value of a tree, given the values of its leaves. -/
def eval (value : α → Binary64) : Expr α → Binary64
  | .leaf a => value a
  | .group e => e.eval value
  | .negated e => -e.eval value
  | .binary op a b => op.apply (a.eval value) (b.eval value)

/-- A tree with other trees in place of its leaves. -/
def bind (e : Expr α) (f : α → Expr β) : Expr β :=
  match e with
  | .leaf a => f a
  | .group e => .group (e.bind f)
  | .negated e => .negated (e.bind f)
  | .binary op a b => .binary op (a.bind f) (b.bind f)

/-- The leaves from left to right. -/
def leaves : Expr α → List α
  | .leaf a => [a]
  | .group e => e.leaves
  | .negated e => e.leaves
  | .binary _ a b => a.leaves ++ b.leaves

end Expr

/-! ## Derivations -/

/-- White space between the parts of an expression. -/
def Spaces (w : List Char) : Prop := ∀ c ∈ w, isSpace c = true

/-- The derivations of a part of speech. White space may stand in front of a factor and in front
of an operator or a closing parenthesis. -/
inductive Derives {α : Type} (leaf : List Char → α → Prop) : Part → List Char → Expr α → Prop
  | leaf {w s : List Char} {a : α} (hw : Spaces w) (ha : leaf s a) :
      Derives leaf .factor (w ++ s) (.leaf a)
  | group {w s w' : List Char} {e : Expr α} (hw : Spaces w) (he : Derives leaf .expression s e)
      (hw' : Spaces w') : Derives leaf .factor (w ++ '(' :: (s ++ (w' ++ [')']))) (.group e)
  | negated {w s : List Char} {e : Expr α} (hw : Spaces w) (he : Derives leaf .factor s e) :
      Derives leaf .factor (w ++ '-' :: s) (.negated e)
  | factor {s : List Char} {e : Expr α} (he : Derives leaf .factor s e) : Derives leaf .term s e
  | product {s w t : List Char} {a b : Expr α} {op : Operator} (ha : Derives leaf .term s a)
      (hw : Spaces w) (hop : op.part = .term) (hb : Derives leaf .factor t b) :
      Derives leaf .term (s ++ (w ++ op.symbol :: t)) (.binary op a b)
  | term {s : List Char} {e : Expr α} (he : Derives leaf .term s e) : Derives leaf .expression s e
  | sum {s w t : List Char} {a b : Expr α} {op : Operator} (ha : Derives leaf .expression s a)
      (hw : Spaces w) (hop : op.part = .expression) (hb : Derives leaf .term t b) :
      Derives leaf .expression (s ++ (w ++ op.symbol :: t)) (.binary op a b)

/-- A leaf without white space in front of it. -/
theorem Derives.of_leaf {α : Type} {leaf : List Char → α → Prop} {s : List Char} {a : α}
    (h : leaf s a) : Derives leaf .factor s (.leaf a) :=
  .leaf (w := []) nofun h

/-- A whole text spells a tree: an expression, and white space after it. -/
def Spells {α : Type} (leaf : List Char → α → Prop) (text : List Char) (e : Expr α) : Prop :=
  ∃ s w, text = s ++ w ∧ Derives leaf .expression s e ∧ Spaces w

/-! ## Literals -/

/-- A literal is spelled as itself: digits and points, with a digit and at most one point. No
derivation puts a digit or a point behind it, so it is a whole run of such characters. -/
def Literal (s a : List Char) : Prop := s = a ∧ Decimal.Plain s

/-- The number that a literal is read as. -/
def literalValue (s : List Char) : Binary64 := (Decimal.ofPlain s).toBinary64

end Formula

end Dashboard
