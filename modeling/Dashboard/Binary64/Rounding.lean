import Dashboard.Binary64.Basic

/-!
# Binary64.Rounding · the nearest number

* **`roundQuotient n d`** is the natural number nearest to `n / d`; a tie goes to the even one.
* **`ofUnits s n d`** is the number nearest to `n / d` units, with sign `s`. All arithmetic and
  all reading of decimals ends in this one function, so each result is the exact result rounded
  once.
* **`ofInt`**, **`truncate`**, **`roundAway`** lead from and to whole numbers.
-/

namespace Dashboard

namespace Binary64

/-- The natural number nearest to `n / d`, a tie to the even one. -/
def roundQuotient (n d : Nat) : Nat :=
  let q := n / d
  let r := n % d
  if 2 * r < d then q else if d < 2 * r then q + 1 else q + q % 2

/-- The finite number of `significand * 2 ^ scale` units, where the significand may have become
`2 ^ 53` by rounding; infinite if the scale is too large. -/
def pack (negative : Bool) (significand scale : Nat) : Binary64 :=
  if h : Canonical significand scale then .finite negative significand scale h
  else if h : Canonical (significand / 2) (scale + 1) then
    .finite negative (significand / 2) (scale + 1) h
  else .infinite negative

/-- The number nearest to `n / d` units: 53 bits are kept, and a tie goes to the even
significand. -/
def ofUnits (negative : Bool) (n d : Nat) : Binary64 :=
  let scale := (n / d).log2 - 52
  pack negative (roundQuotient n (d * 2 ^ scale)) scale

/-- The number nearest to the natural number `n`, with a sign. -/
def ofMagnitudeNat (negative : Bool) (n : Nat) : Binary64 := ofUnits negative (n * unitsPerOne) 1

/-- The number nearest to a natural number. -/
def ofNat (n : Nat) : Binary64 := ofMagnitudeNat false n

/-- The number nearest to an integer. -/
def ofInt (i : Int) : Binary64 := ofMagnitudeNat (i < 0) i.natAbs

/-- Whether this is a finite whole number. -/
def isIntegral (x : Binary64) : Bool := x.isFinite && x.units % unitsPerOne == 0

/-- The whole part of the absolute value; `0` for what is not finite. -/
def wholePart (x : Binary64) : Nat := x.units / unitsPerOne

/-- The value without its fraction; `0` for what is not finite. -/
def truncate (x : Binary64) : Int :=
  if x.negative then - (x.wholePart : Int) else x.wholePart

/-- The least 64-bit integer. -/
def int64Min : Int := -(2 ^ (63 : Nat))

/-- The greatest 64-bit integer. -/
def int64Max : Int := 2 ^ (63 : Nat) - 1

/-- The value without its fraction, kept within the 64-bit integers; a not-a-number gives `0`. -/
def toInt64 : Binary64 → Int
  | .nan _ _ _ => 0
  | .infinite s => if s then int64Min else int64Max
  | x => max int64Min (min int64Max x.truncate)

/-- The nearest whole number, a half away from zero. The sign is kept, also on a zero. -/
def roundAway : Binary64 → Binary64
  | .finite s m e _ =>
    let whole := (2 * (m * 2 ^ e) + unitsPerOne) / (2 * unitsPerOne)
    ofMagnitudeNat s whole
  | x => x

end Binary64

end Dashboard
