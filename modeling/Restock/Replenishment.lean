import Restock.Stocking

/-!
Reorder rules: the stocking parameters of a product in whole units, for automatic ordering.
-/
namespace Restock
variable {α : Type} [Scalar α]

/-- A rule that orders when stock falls to the reorder point. -/
structure ReorderRule (α : Type) where
  product : String
  location : String
  reorderPoint : Int
  orderQuantity : Int
  maxStock : Int
  /-- The least stock to keep. -/
  minStock : Int
  safetyStock : Int
  leadTimeDays : Int
  reviewPeriodDays : Int
  serviceLevel : α
  costPerOrder : α
  carryingCostRate : α
  /-- Whether orders are placed without being asked for. -/
  automaticOrdering : Bool := true
  active : Bool := true

/-- The rule for a stocking plan. Quantities are cut to whole units, and the least stock to keep is the
safety stock; a lead time of zero is taken from the parameters. -/
def ReorderRule.ofPlan (plan : StockingPlan α) (p : Parameters α) (reviewPeriodDays : Int) :
    Planned α (ReorderRule α) :=
  if reviewPeriodDays < 1 then .error (.invalidParameter (.reviewPeriod reviewPeriodDays))
  else do
    let leadTime := if plan.leadTimeDays == 0 then p.leadTimeDays else plan.leadTimeDays
    let reorderPoint ← Scalar.toInt? plan.reorderPoint
    let orderQuantity ← Scalar.toInt? plan.orderQuantity
    let maxStock ← Scalar.toInt? plan.maxStock
    let safetyStock ← Scalar.toInt? plan.safetyStock
    let leadTimeDays ← Scalar.toInt? leadTime
    return {
      product := plan.product
      location := plan.location
      reorderPoint, orderQuantity, maxStock, safetyStock, leadTimeDays, reviewPeriodDays
      minStock := safetyStock
      serviceLevel := plan.serviceLevel
      costPerOrder := p.orderingCost
      carryingCostRate := p.holdingCostRate }

end Restock
