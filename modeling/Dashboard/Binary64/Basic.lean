/-!
# Binary64 · the numbers of a dashboard

Every number of a dataset is an IEEE 754 double. This module holds the type, its bit pattern and
its two orders; `Binary64.Rounding` and `Binary64.Arithmetic` hold the operations.

* **`Binary64`** is a not-a-number with sign and payload, an infinity, or a finite number. A finite
  number is `significand * 2 ^ scale` *units*, where one unit is the smallest positive number,
  `2 ^ -1074`. The fields are canonical, so two finite numbers are the same exactly if their
  fields are.
* **`magnitude`** is the bit pattern without its sign bit. It grows with the absolute value.
* **`level`** is the signed magnitude: both zeros have level `0`. Numeric comparison is comparison
  of levels, where not-a-numbers compare with nothing (`compare?`).
* **`rank`** separates the zeros and places every not-a-number at an end: the total order
  (`totalOrder`).
-/

namespace Dashboard

-- Powers of natural numbers and integers are those of the core library, also where another
-- library offers its own. Literal exponents name their type so that this instance is found.
attribute [scoped instance (high)] instPowNat

/-- The pairs that a finite number is written with: a significand of at most 53 bits, and a scale
that is the least possible one. -/
def Binary64.Canonical (significand scale : Nat) : Prop :=
  significand < 2 ^ (53 : Nat) ∧ scale ≤ 2045 ∧ (scale = 0 ∨ 2 ^ (52 : Nat) ≤ significand)

instance (significand scale : Nat) : Decidable (Binary64.Canonical significand scale) :=
  inferInstanceAs (Decidable (_ ∧ _ ∧ _))

/-- A double: a not-a-number, an infinity, or `significand * 2 ^ scale` units with a sign. -/
inductive Binary64 where
  /-- Not a number, with a sign and the payload bits. -/
  | nan (negative : Bool) (payload : Nat) (inRange : 0 < payload ∧ payload < 2 ^ (52 : Nat))
  /-- Positive or negative infinity. -/
  | infinite (negative : Bool)
  /-- A finite number. -/
  | finite (negative : Bool) (significand scale : Nat)
      (canonical : Binary64.Canonical significand scale)
deriving DecidableEq

namespace Binary64

/-! ## Constants -/

/-- Positive or negative zero. -/
def zero (negative : Bool) : Binary64 := .finite negative 0 0 (by decide)

instance : Inhabited Binary64 := ⟨zero false⟩

/-- The result of reading a text that is no number. -/
def quietNaN : Binary64 := .nan false (2 ^ (51 : Nat)) (by decide)

/-- The result of an operation that has no result, such as the difference of two infinities. -/
def invalid : Binary64 := .nan true (2 ^ (51 : Nat)) (by decide)

/-! ## Parts -/

/-- The sign bit. -/
def negative : Binary64 → Bool
  | .nan s _ _ => s
  | .infinite s => s
  | .finite s _ _ _ => s

/-- Whether this is a not-a-number. -/
def isNaN : Binary64 → Bool
  | .nan _ _ _ => true
  | _ => false

/-- Whether this is neither infinite nor a not-a-number. -/
def isFinite : Binary64 → Bool
  | .finite _ _ _ _ => true
  | _ => false

/-- The same number with the sign bit turned. -/
def neg : Binary64 → Binary64
  | .nan s p h => .nan (!s) p h
  | .infinite s => .infinite (!s)
  | .finite s m e h => .finite (!s) m e h

instance : Neg Binary64 := ⟨neg⟩

/-- The bit pattern without the sign bit. -/
def magnitude : Binary64 → Nat
  | .nan _ payload _ => 2047 * 2 ^ (52 : Nat) + payload
  | .infinite _ => 2047 * 2 ^ (52 : Nat)
  | .finite _ significand scale _ => scale * 2 ^ (52 : Nat) + significand

/-- How many units make the number one. -/
def unitsPerOne : Nat := 2 ^ (1074 : Nat)

/-- The absolute value in units; `0` for what is not finite. -/
def units : Binary64 → Nat
  | .finite _ significand scale _ => significand * 2 ^ scale
  | _ => 0

/-! ## Bit patterns -/

/-- The number with a sign and a bit pattern below it. A pattern that overflows counts as the
infinity. -/
def ofMagnitude (negative : Bool) (magnitude : Nat) : Binary64 :=
  let exponent := magnitude / 2 ^ (52 : Nat)
  let fraction := magnitude % 2 ^ (52 : Nat)
  let scale := exponent - 1
  let significand := if exponent = 0 then fraction else fraction + 2 ^ (52 : Nat)
  if h : Canonical significand scale then .finite negative significand scale h
  else if h : 0 < fraction ∧ fraction < 2 ^ (52 : Nat) then .nan negative fraction h
  else .infinite negative

/-- The number with a bit pattern; bits above the sixty-fourth are dropped. -/
def ofBits (bits : Nat) : Binary64 :=
  ofMagnitude (bits / 2 ^ (63 : Nat) % 2 = 1) (bits % 2 ^ (63 : Nat))

/-! ## Orders -/

/-- The signed magnitude. Both zeros have level `0`. -/
def level (x : Binary64) : Int :=
  if x.negative then - (x.magnitude : Int) else x.magnitude

/-- The place in the total order: negative numbers first, `-0` just before `0`. -/
def rank (x : Binary64) : Int :=
  if x.negative then - (x.magnitude : Int) - 1 else x.magnitude

/-- Numeric comparison. A not-a-number compares with nothing. -/
def compare? (x y : Binary64) : Option Ordering :=
  if x.isNaN || y.isNaN then none else some (compare x.level y.level)

/-- Comparison by rank: a total order on all numbers, not-a-numbers included. -/
def totalOrder (x y : Binary64) : Ordering := compare x.rank y.rank

/-- Numeric equality: `-0` equals `0`, a not-a-number equals nothing. -/
def same (x y : Binary64) : Bool := x.compare? y == some .eq

/-- Numeric strictly-less. -/
def less (x y : Binary64) : Bool := x.compare? y == some .lt

/-- Numeric at-most. -/
def atMost (x y : Binary64) : Bool := x.less y || x.same y

/-- Whether this is positive or negative zero. -/
def isZero (x : Binary64) : Bool := x.magnitude == 0

end Binary64

end Dashboard
