import Dashboard.Binary64.Rounding

/-!
# Binary64.Arithmetic · the four operations, remainder and folds

Each operation on finite numbers computes its result exactly, in units, and rounds it once with
`ofUnits`. An operation on a not-a-number gives that not-a-number, the left one first; an operation
without a result gives `invalid`.
-/

namespace Dashboard

namespace Binary64

/-- The signed number of units of a finite number. -/
def signedUnits (negative : Bool) (units : Nat) : Int :=
  if negative then - (units : Int) else units

/-- Sum. The sum of opposite numbers is `0`, and `-0` only if both are negative. -/
def add : Binary64 → Binary64 → Binary64
  | .nan s p h, _ => .nan s p h
  | _, .nan s p h => .nan s p h
  | .infinite s, .infinite t => if s = t then .infinite s else invalid
  | .infinite s, .finite _ _ _ _ => .infinite s
  | .finite _ _ _ _, .infinite t => .infinite t
  | .finite s m e _, .finite t n f _ =>
    let total := signedUnits s (m * 2 ^ e) + signedUnits t (n * 2 ^ f)
    if total = 0 then zero (s && t) else ofUnits (total < 0) total.natAbs 1

/-- Difference. -/
def sub (x y : Binary64) : Binary64 :=
  match y with
  | .nan s p h => add x (.nan s p h)
  | y => add x y.neg

/-- Product. An infinity times a zero has no result. -/
def mul : Binary64 → Binary64 → Binary64
  | .nan s p h, _ => .nan s p h
  | _, .nan s p h => .nan s p h
  | .infinite s, .infinite t => .infinite (s != t)
  | .infinite s, .finite t n _ _ => if n = 0 then invalid else .infinite (s != t)
  | .finite s m _ _, .infinite t => if m = 0 then invalid else .infinite (s != t)
  | .finite s m e _, .finite t n f _ =>
    ofUnits (s != t) ((m * 2 ^ e) * (n * 2 ^ f)) unitsPerOne

/-- Quotient. A nonzero number over zero is infinite; zero over zero and infinity over infinity
have no result. -/
def div : Binary64 → Binary64 → Binary64
  | .nan s p h, _ => .nan s p h
  | _, .nan s p h => .nan s p h
  | .infinite _, .infinite _ => invalid
  | .infinite s, .finite t _ _ _ => .infinite (s != t)
  | .finite s _ _ _, .infinite t => zero (s != t)
  | .finite s m e _, .finite t n f _ =>
    if n = 0 then if m = 0 then invalid else .infinite (s != t)
    else ofUnits (s != t) ((m * 2 ^ e) * unitsPerOne) (n * 2 ^ f)

/-- Remainder of the division toward zero; it has the sign of the left operand and is exact. -/
def rem : Binary64 → Binary64 → Binary64
  | .nan s p h, _ => .nan s p h
  | _, .nan s p h => .nan s p h
  | .infinite _, _ => invalid
  | .finite s m e h, .infinite _ => .finite s m e h
  | .finite s m e _, .finite _ n f _ =>
    if n = 0 then invalid else ofUnits s ((m * 2 ^ e) % (n * 2 ^ f)) 1

instance : Add Binary64 := ⟨add⟩
instance : Sub Binary64 := ⟨sub⟩
instance : Mul Binary64 := ⟨mul⟩
instance : Div Binary64 := ⟨div⟩
instance : Mod Binary64 := ⟨rem⟩

/-! ## Folds -/

/-- The sum from left to right. It starts at `-0`, which changes no number it is added to. -/
def sum (xs : List Binary64) : Binary64 := xs.foldl add (zero true)

/-- The lesser number; of equal ones the left, and a number before a not-a-number. -/
def min (x y : Binary64) : Binary64 :=
  if x.isNaN then y else if y.less x then y else x

/-- The greater number; of equal ones the left, and a number before a not-a-number. -/
def max (x y : Binary64) : Binary64 :=
  if x.isNaN then y else if x.less y then y else x

end Binary64

end Dashboard
