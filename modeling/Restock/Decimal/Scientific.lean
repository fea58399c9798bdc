import Restock.Decimal.Fixed

/-!
Floats with one digit before the point, a fixed number of places after it and an exponent, rounded
from their exact value; a half goes to the even neighbour.
-/
namespace Restock.Decimal

/-- The positive number `m · 2 ^ q` with `places` digits after the point. Rounding up to the next
power of ten moves the exponent. -/
def scientificDigits (places m : Nat) (q : Int) : String :=
  let value := Quotient.ofBinary m q
  let e := value.magnitude
  let units := (value.shift (places - e)).round
  let (units, e) := if units = tenTo (places + 1) then (tenTo places, e + 1) else (units, e)
  unitsText places units ++ exponentText messageStyle.exponentWidth e

/-- A float with `places` digits after the point. Zero has no sign. -/
def scientificText (places : Nat) (x : Float) : String :=
  match Binary64.ofFloat x with
  | .nan => "nan"
  | .infinite negative => infinityText negative
  | .finite negative m q =>
    if m = 0 then unitsText places 0 ++ exponentText messageStyle.exponentWidth 0
    else (if negative then "-" else "") ++ scientificDigits places m q

end Restock.Decimal
