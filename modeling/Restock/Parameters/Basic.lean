import Restock.Calendar.Day
import Restock.Scalar
import Restock.Table

/-!
The business inputs of one planning run.
-/
namespace Restock

/-- Service level, costs, planner overrides and limits of one run. -/
structure Parameters (α : Type) where
  /-- The probability of not running out during the lead time. -/
  targetServiceLevel : α
  /-- The cost of holding one unit for a year. -/
  holdingCostRate : α
  orderingCost : α
  /-- The penalty for each unit short. -/
  stockoutCost : α
  leadTimeVariability : α
  demandVariability : α
  /-- What the planner multiplies each month's seasonal index with. -/
  seasonalityFactors : Vector α 12
  /-- What the planner multiplies the trend with. -/
  trendFactor : α
  /-- The most that a location's plan may cost. -/
  maxInventoryInvestment : Option α
  storageConstraints : Table String α
  leadTimeDays : α

namespace Parameters
variable {α : Type} [Scalar α]

def default : Parameters α where
  targetServiceLevel := Scalar.fraction 95 2
  holdingCostRate := Scalar.fraction 25 2
  orderingCost := Scalar.ofNat 50
  stockoutCost := Scalar.ofNat 100
  leadTimeVariability := Scalar.fraction 1 1
  demandVariability := Scalar.fraction 2 1
  seasonalityFactors := Vector.replicate 12 1
  trendFactor := 1
  maxInventoryInvestment := none
  storageConstraints := .empty
  leadTimeDays := Scalar.ofNat 7

/-- The planner's factor for a month. -/
def seasonalityFactor (p : Parameters α) (m : Month) : α := p.seasonalityFactors.get m

/-- The planner's factor at a position counted from 1; positions from 0 downward count from the end
of the year. -/
def factorAt? (p : Parameters α) (position : Int) : Option α :=
  let i := if position < 1 then position + 11 else position - 1
  if 0 ≤ i then p.seasonalityFactors.toList[i.toNat]? else none

end Parameters
end Restock
