import Restock.Calendar.Instant
import Restock.Error
import Restock.Policy
import Restock.Scalar.Sum

/-!
Turnover: yearly sales as a multiple of stock. Products that turn over too slowly are to be reduced
to the stock at which they reach the target.
-/
namespace Restock
variable {α : Type} [Scalar α]

/-- The stock of a product and its sales of the last year. -/
structure Position (α : Type) where
  product : String
  stock : α
  annualSales : α

inductive Priority where
  | high
  | medium
deriving DecidableEq

/-- A recommended reduction of stock. -/
structure Reduction (α : Type) where
  product : String
  turnover : α
  target : α
  /-- The change of stock; below zero. -/
  adjustment : α
  impact : α
  priority : Priority

/-- The reductions for a location and what they free. -/
structure TurnoverPlan (α : Type) where
  location : String
  analyzedAt : Instant
  turnover : α
  target : α
  reductions : List (Reduction α)
  workingCapital : α
  carryingCostSavings : α
  timelineDays : Int

/-- The turnover of sales on a stock; zero without stock. -/
def turnoverRatio (sales stock : α) : α := if 0 < stock then sales / stock else 0

/-- The stock above the one that would reach the target. -/
def Position.excess (p : Position α) (target : α) : α := p.stock - p.annualSales / target

/-- The reduction of a position, if it turns over too slowly. -/
def Position.reduction? (policy : TurnoverPolicy α) (target : α) (p : Position α) :
    Option (Reduction α) :=
  let turnover := turnoverRatio p.annualSales p.stock
  let excess := p.excess target
  if target ≤ turnover then none
  else if excess ≤ 0 then none
  else some {
    product := p.product
    turnover, target
    adjustment := -excess
    impact := excess * policy.unitValue
    priority := if policy.highPriorityExcessUnits < excess then .high else .medium }

/-- The reductions that bring every product of a location up to a target turnover. -/
def TurnoverPlan.ofPositions (policy : TurnoverPolicy α) (location : String)
    (positions : List (Position α)) (target carryingCostRate : α) (now : Instant) :
    Planned α (TurnoverPlan α) :=
  if target ≤ 0 then .error (.invalidParameter (.turnoverTarget target))
  else
    let reductions := positions.filterMap (Position.reduction? policy target)
    let freed := Scalar.sum (reductions.map Reduction.impact)
    .ok {
      location
      analyzedAt := now
      turnover := turnoverRatio (Scalar.sum (positions.map Position.annualSales))
        (Scalar.sum (positions.map Position.stock))
      target, reductions
      workingCapital := freed
      carryingCostSavings := freed * carryingCostRate
      timelineDays := policy.implementationTimelineDays }

end Restock
