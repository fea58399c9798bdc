import Restock.Calendar.Instant
import Restock.Demand.Observation
import Restock.Normal.Quantile
import Restock.Parameters.Basic
import Restock.Policy
import Restock.Scalar.Checked
import Restock.Statistics.Dispersion

/-!
The stocking parameters of one product at one location: how much to order, when, and how much to
keep as a buffer.

* The order quantity balances the cost of ordering against that of holding.
* The safety stock covers the demand of the lead time at the target service level.
* The reorder point is the expected demand of the lead time plus the safety stock.
-/
namespace Restock
variable {α : Type}

/-- The stocking parameters with what they are expected to cost per year. -/
structure StockingPlan (α : Type) where
  product : String
  location : String
  reorderPoint : α
  orderQuantity : α
  safetyStock : α
  maxStock : α
  serviceLevel : α
  totalCost : α
  holdingCost : α
  orderingCost : α
  /-- The expected penalty for running out; it is not part of the total. -/
  stockoutCost : α
  costLow : α
  costHigh : α
  method : String
  updatedAt : Instant
  validityPeriodDays : Int
  averageDailyDemand : α
  demandDeviation : α
  leadTimeDays : α

section
variable [Scalar α]

/-- The days of a year. -/
def daysPerYear : α := Scalar.ofNat 365

/-- The order quantity with the least yearly cost of ordering and holding. -/
def economicOrderQuantity (annualDemand orderingCost holdingRate : α) : Planned α α :=
  if annualDemand ≤ 0 ∨ orderingCost ≤ 0 ∨ holdingRate ≤ 0 then
    .error (.invalidParameter (.lotSize annualDemand orderingCost holdingRate))
  else .ok (Scalar.sqrt (Scalar.ofNat 2 * annualDemand * orderingCost / holdingRate))

/-- The variance of demand. A history of fewer than two days has none of its own; its first quantity
is then taken to vary by the given share. -/
def demandVariance (quantities : List α) (variability : α) : Planned α α :=
  if 1 < quantities.length then .ok (Statistics.variance quantities)
  else Scalar.square? (quantities.headD 0 * variability)

/-- Accepts a service level between zero and one and a lead time that is not negative. -/
def checkCover (serviceLevel leadTimeDays : α) : Planned α Unit :=
  if serviceLevel ≤ 0 ∨ 1 ≤ serviceLevel then .error (.invalidParameter .serviceLevel)
  else if leadTimeDays < 0 then .error (.invalidParameter (.negativeLeadTime leadTimeDays))
  else .ok ()

/-- The buffer for a service level over a lead time. -/
def safetyStock (history : List (Observation α)) (serviceLevel leadTimeDays variability : α) :
    Planned α α := do
  checkCover serviceLevel leadTimeDays
  let variance ← demandVariance (Observation.quantities history) variability
  let z := Normal.quantile serviceLevel
  return Scalar.max 0 (z * Scalar.sqrt variance * Scalar.sqrt leadTimeDays)

/-- The buffer from rows that are yet to be observed; the other arguments are checked first. -/
def safetyStockOfRows (rows : List (Day × α)) (serviceLevel leadTimeDays variability : α) :
    Planned α α := do
  checkCover serviceLevel leadTimeDays
  safetyStock (← Observation.ofPairs? rows) serviceLevel leadTimeDays variability

/-- The stock level at which to order. -/
def reorderPoint (averageDailyDemand leadTimeDays safetyStock : α) : α :=
  Scalar.max 0 (averageDailyDemand * leadTimeDays + safetyStock)

end

variable [Gaussian α]

/-- The expected shortfall of a standard normal demand beyond `k`. -/
def standardLoss (k : α) : α := Gaussian.density k - k * Gaussian.tail k

/-- The yearly penalty expected for running out. -/
def expectedStockoutCost (annualDemand orderQuantity demandDeviation leadTimeDays safetyStock
    penalty : α) : Planned α α := do
  let sigma := demandDeviation * (← Scalar.root? leadTimeDays)
  if sigma ≤ 0 ∨ penalty ≤ 0 ∨ orderQuantity ≤ 0 then return 0
  let cycles := annualDemand / orderQuantity
  return Scalar.max 0 (penalty * cycles * sigma * standardLoss (safetyStock / sigma))

/-- The stocking parameters that a history calls for. -/
def StockingPlan.ofHistory (history : List (Observation α)) (p : Parameters α)
    (policy : OptimizerPolicy α) (product location : String) (now : Instant) :
    Planned α (StockingPlan α) :=
  if history.isEmpty then .error (.insufficientData .stocking product location)
  else do
    let quantities := Observation.quantities history
    let average := Scalar.mean quantities
    let annual := average * daysPerYear
    let deviation := Scalar.sqrt (Statistics.variance quantities)
    let quantity ← economicOrderQuantity annual p.orderingCost p.holdingCostRate
    let z := Normal.quantile p.targetServiceLevel
    let safety := Scalar.max 0 (z * deviation * Scalar.sqrt p.leadTimeDays)
    let reorder := average * p.leadTimeDays + safety
    let holding := (quantity / Scalar.ofNat 2 + safety) * p.holdingCostRate
    let ordering := (← Scalar.quotient? annual quantity) * p.orderingCost
    let total := holding + ordering
    let stockout ←
      expectedStockoutCost annual quantity deviation p.leadTimeDays safety p.stockoutCost
    return {
      product, location
      reorderPoint := reorder
      orderQuantity := quantity
      safetyStock := safety
      maxStock := reorder + quantity
      serviceLevel := p.targetServiceLevel
      totalCost := total
      holdingCost := holding
      orderingCost := ordering
      stockoutCost := stockout
      costLow := total * (1 - policy.costBand)
      costHigh := total * (1 + policy.costBand)
      method := policy.methodLabel
      updatedAt := now
      validityPeriodDays := policy.validityPeriodDays
      averageDailyDemand := average
      demandDeviation := deviation
      leadTimeDays := p.leadTimeDays }

end Restock
