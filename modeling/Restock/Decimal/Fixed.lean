import Restock.Decimal.Shortest

/-!
Floats with a fixed number of places after the point, rounded from their exact value; a half goes to
the even neighbour.
-/
namespace Restock.Decimal

/-- A natural number of units of `10 ^ -places`, written with its point. -/
def unitsText (places units : Nat) : String :=
  if places = 0 then toString units
  else toString (units / tenTo places) ++ "." ++ padded places (units % tenTo places)

/-- A float with `places` digits after the point. The sign stays when the digits round to zero. -/
def fixedText (places : Nat) (x : Float) : String :=
  match Binary64.ofFloat x with
  | .nan => "nan"
  | .infinite negative => infinityText negative
  | .finite negative m q =>
    (if negative then "-" else "") ++ unitsText places ((Quotient.ofBinary m q).shift places).round

end Restock.Decimal
