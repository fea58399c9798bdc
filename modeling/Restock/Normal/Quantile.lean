import Restock.Scalar

/-!
The standard normal quantile by a rational approximation, off by less than 0.00045.
-/
namespace Restock.Normal
variable {α : Type} [Scalar α]

def quantileNumerator (t : α) : α :=
  Scalar.fraction 2515517 6 + Scalar.fraction 802853 6 * t
    + Scalar.fraction 10328 6 * Scalar.pow t 2

def quantileDenominator (t : α) : α :=
  1 + Scalar.fraction 1432788 6 * t + Scalar.fraction 189269 6 * Scalar.pow t 2
    + Scalar.fraction 1308 6 * Scalar.pow t 3

/-- The distance from the mean beyond which a probability of at most one half lies. -/
def tailDistance (tail : α) : α :=
  let t := Scalar.sqrt (-Scalar.ofNat 2 * Scalar.log tail)
  t - quantileNumerator t / quantileDenominator t

/-- The number of standard deviations below which a probability lies; zero for what is no
probability between zero and one. -/
def quantile (p : α) : α :=
  if p ≤ 0 ∨ 1 ≤ p then 0
  else if Scalar.fraction 5 1 < p then tailDistance (1 - p)
  else -tailDistance p

end Restock.Normal
