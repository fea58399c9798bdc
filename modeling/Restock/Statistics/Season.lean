import Restock.Calendar.Civil
import Restock.Demand.Observation
import Restock.Scalar.Sum

/-!
Seasonal indices: the mean demand of a calendar month as a multiple of the overall mean.
-/
namespace Restock.Statistics
variable {α : Type} [Scalar α]

/-- The quantities observed in a month of any year. -/
def inMonth (history : List (Observation α)) (m : Month) : List α :=
  (history.filter fun o => o.day.month = m).map Observation.quantity

/-- The months that occur in a history, in order. -/
def monthsOf (history : List (Observation α)) : List Month :=
  Month.all.filter fun m => history.any fun o => o.day.month = m

/-- The mean of a month's quantities. -/
def monthlyMean (qs : List α) : α := Scalar.compensatedSum qs / Scalar.ofNat qs.length

/-- The index of each month that occurs, in order. Without any demand every index is one. -/
def seasonalIndex (history : List (Observation α)) : List (Month × α) :=
  let overall := Scalar.mean (Observation.quantities history)
  (monthsOf history).map fun m =>
    (m, if overall ≤ 0 then 1 else monthlyMean (inMonth history m) / overall)

/-- The index of a month; one for a month that does not occur. -/
def indexOf (indices : List (Month × α)) (m : Month) : α := (indices.lookup m).getD 1

/-- The indices of all twelve months. -/
def monthlyIndices (indices : List (Month × α)) : Vector α 12 := Vector.ofFn (indexOf indices)

end Restock.Statistics
