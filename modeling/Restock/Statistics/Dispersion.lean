import Restock.Scalar.Sum

/-!
The spread of a list of numbers around its mean.
-/
namespace Restock.Statistics
variable {α : Type} [Scalar α]

/-- The squared distances from a center. -/
def squaredDeviations (center : α) (xs : List α) : List α :=
  xs.map fun x => (x - center) * (x - center)

/-- The sample variance, with one degree of freedom spent on the mean; zero below two values. -/
def variance (xs : List α) : α :=
  if xs.length < 2 then 0
  else Scalar.blockSum (squaredDeviations (Scalar.mean xs) xs) / Scalar.ofNat (xs.length - 1)

/-- The population standard deviation. -/
def populationDeviation (xs : List α) : α :=
  Scalar.sqrt (Scalar.blockSum (squaredDeviations (Scalar.mean xs) xs) / Scalar.ofNat xs.length)

end Restock.Statistics
