import Dashboard.Decimal.Shortest

/-!
# Decimal.Layout · how numbers are written

* **`positional`** writes a decimal without an exponent, whatever its size.
* **`Binary64.plainChars`** is the plain form: words for what is not finite, whole numbers with all
  their digits, other numbers with the fewest digits that read back.
* **`Binary64.rawChars`** is the data form: always with a point or an exponent. From `1e-5` up to
  below `1e16` there is no exponent; an exponent always has a sign.
-/

namespace Dashboard

namespace Decimal

/-- The text of a sign. -/
def signChars (negative : Bool) : List Char := if negative then ['-'] else []

/-- The digits of `coefficient * 10 ^ exponent` with a point where it belongs. -/
def positional (d : Decimal) : List Char :=
  let ds := digits d.coefficient
  signChars d.negative ++
    match d.exponent with
    | .ofNat e => ds ++ List.replicate e '0'
    | .negSucc e =>
      let places := e + 1
      if places < ds.length then
        ds.take (ds.length - places) ++ '.' :: ds.drop (ds.length - places)
      else '0' :: '.' :: (List.replicate (places - ds.length) '0' ++ ds)

/-- One digit before the point and a signed exponent. -/
def scientific (d : Decimal) : List Char :=
  let ds := digits d.coefficient
  let exponent : Int := d.exponent + ds.length - 1
  signChars d.negative ++ ds.take 1 ++ (if ds.length ≤ 1 then [] else '.' :: ds.drop 1) ++
    'e' :: (if exponent < 0 then '-' else '+') :: digits exponent.natAbs

end Decimal

namespace Binary64

/-- The plain form of a number: never an exponent; both zeros are `0`. -/
def plainChars (x : Binary64) : List Char :=
  match x with
  | .nan _ _ _ => ['N', 'a', 'N']
  | .infinite s => Decimal.signChars s ++ ['I', 'n', 'f', 'i', 'n', 'i', 't', 'y']
  | .finite _ _ _ _ =>
    if x.isZero then ['0']
    else if x.isIntegral then Decimal.signChars x.negative ++ Decimal.digits x.wholePart
    else (Decimal.shortest .up x).positional

/-- The data form of a finite number: always with a point or an exponent. -/
def rawChars (x : Binary64) : List Char :=
  if x.isZero then Decimal.signChars x.negative ++ ['0', '.', '0']
  else
    let d := Decimal.shortest .even x
    let size : Int := (Decimal.digits d.coefficient).length + d.exponent
    if -5 < size ∧ size ≤ 16 then
      if d.exponent < 0 then d.positional else d.positional ++ ['.', '0']
    else d.scientific

/-- The plain form as a string. -/
def plainText (x : Binary64) : String := String.ofList x.plainChars

end Binary64

end Dashboard
