import Restock.Decimal.Binary64
import Restock.Normal.Tail
import Restock.Scalar

/-!
64-bit floats as a number system.
-/
namespace Restock

/-- Floats end below `10 ^ 309`. -/
def mostFloatDigits : Int := 310

/-- Half of the least positive float is above `10 ^ -324`. -/
def leastFloatExponent : Int := -325

/-- The float nearest to `digits · 10 ^ exponent`. Numbers far outside the range are decided by
their magnitude alone. -/
def floatOfDecimal (negative : Bool) (digits : Nat) (exponent : Int) : Float :=
  let top : Int := exponent + Quotient.digitCount digits
  let x : Float :=
    if digits = 0 then 0
    else if mostFloatDigits < top then 1 / 0
    else if top < leastFloatExponent then 0
    else Float.ofScientific digits (decide (exponent < 0)) exponent.natAbs
  if negative then -x else x

instance : Scalar Float where
  zero := 0
  one := 1
  add := Float.add
  sub := Float.sub
  mul := Float.mul
  div := Float.div
  neg := Float.neg
  lt a b := a < b
  le a b := a ≤ b
  beq a b := a == b
  decLt a b := inferInstanceAs (Decidable (a < b))
  decLe a b := inferInstanceAs (Decidable (a ≤ b))
  ofDecimal := floatOfDecimal
  nan? := some (0 / 0)
  infinity? negative := some (if negative then -1 / 0 else 1 / 0)
  sqrt := Float.sqrt
  log := Float.log
  pow a n := a.pow (Float.ofNat n)
  isFinite := Float.isFinite
  truncate a := (Binary64.ofFloat a).truncate

instance : Gaussian Float where
  density := Normal.density
  tail := Normal.tail

end Restock
