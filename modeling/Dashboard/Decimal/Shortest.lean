import Dashboard.Decimal.Basic

/-!
# Decimal.Shortest · the fewest digits that read back

* **`shortest tie x`** is a decimal with the fewest significant digits that `toBinary64` reads as
  `x`. Of the two decimals of a length next to `x` it takes the one that reads back, of two such
  the nearer one, and `tie` decides between two equally near ones.
* **`exact x`** writes out all digits; it is the answer should no short decimal read back.
-/

namespace Dashboard

namespace Decimal

/-- Which of two equally near decimals is taken: the greater, or the one with the even last
digit. -/
inductive Tie where
  | up
  | even
deriving DecidableEq, Repr

/-- The exact value of a finite number: one unit is `5 ^ 1074 / 10 ^ 1074`. -/
def exact (x : Binary64) : Decimal :=
  ⟨x.negative, x.units * 5 ^ (1074 : Nat), -1074⟩

/-- The power of ten of the first digit of `units` units, where `units` is not zero. -/
def leadingPower (units : Nat) : Int :=
  if Binary64.unitsPerOne ≤ units then (digits (units / Binary64.unitsPerOne)).length - 1
  else -((digits ((Binary64.unitsPerOne - 1) / units)).length : Int)

/-- The value of `units` units as a fraction of `10 ^ power`. -/
def onGrid (units : Nat) (power : Int) : Nat × Nat :=
  match power with
  | .ofNat e => (units, Binary64.unitsPerOne * 10 ^ e)
  | .negSucc e => (units * 10 ^ (e + 1), Binary64.unitsPerOne)

/-- Whether a decimal reads as `x`. -/
def readsAs (x : Binary64) (d : Decimal) : Bool := decide (d.toBinary64 = x)

/-- The decimal next to `x` on the grid of multiples of `10 ^ power` that reads back as `x`. -/
def onGrid? (tie : Tie) (x : Binary64) (power : Int) : Option Decimal :=
  let (n, d) := onGrid x.units power
  let q := n / d
  let r := n % d
  let low : Decimal := ⟨x.negative, q, power⟩
  let high : Decimal := ⟨x.negative, q + 1, power⟩
  let lowFirst := 2 * r < d || (2 * r == d && (tie == .even && q % 2 == 0))
  let (first, second) := if lowFirst then (low, high) else (high, low)
  if readsAs x first then some first else if readsAs x second then some second else none

/-- A decimal with the fewest significant digits that reads as the finite number `x`. A grid one
power above the first digit comes first, for values just below a power of ten. -/
def shortest (tie : Tie) (x : Binary64) : Decimal :=
  let top := leadingPower x.units
  ((List.range 18).findSome? fun (n : Nat) => onGrid? tie x (top + 1 - n)).getD (exact x)

end Decimal

end Dashboard
