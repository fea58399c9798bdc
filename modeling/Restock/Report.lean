import Restock.Demand.Daily
import Restock.Source
import Restock.Stocking
import Restock.Settings

/-!
Stocking plans for all products of a location. A product without usable demand is skipped; any other
failure ends the run.
-/
namespace Restock
variable {α : Type}

/-- A limit that the plans of a location exceed. -/
inductive Violation (α : Type) where
  | investment (recommended limit : α)
  | storage (location : String) (required capacity : α)

inductive Advice where
  | automateReordering
  | scheduleReviews
  | classifyProducts
  | reviewMovements (products : Nat)
  | adjustTargets
deriving DecidableEq

/-- The plans of some products, and the products that have none. -/
structure PlanBatch (α : Type) where
  plans : List (StockingPlan α)
  skipped : List String

structure LocationReport (α : Type) where
  location : String
  madeAt : Instant
  /-- The yearly cost of holding the stock on hand. -/
  currentInvestment : α
  /-- The yearly cost of holding and ordering under the plans. -/
  recommendedInvestment : α
  savings : α
  plans : List (StockingPlan α)
  skipped : List String
  violations : List (Violation α)
  advice : List Advice

/-- Keeps a result, turns a failure that only concerns one product into nothing, and passes on any
other failure. -/
def skipping {β : Type} : Planned α β → Planned α (Option β)
  | .ok b => .ok (some b)
  | .error e => if e.skippable then .ok none else .error e

/-- Gathers what was planned for each product. -/
def PlanBatch.ofOutcomes (outcomes : List (String × Option (StockingPlan α))) : PlanBatch α where
  plans := outcomes.filterMap Prod.snd
  skipped := (outcomes.filter fun o => o.2.isNone).map Prod.fst

section
variable [Scalar α]

/-- A history from a source, with its quiet days if the settings ask for them. -/
def DemandSource.denseHistory (source : DemandSource α) (settings : Settings α) (today : Day)
    (product location : String) (daysBack : Int) : Planned α (List (Observation α)) := do
  let history ← source.fetchHistory product location daysBack
  let window ← inCalendar (lookback? today daysBack)
  densify history settings.forecast.fillGaps (some window)

/-- The limits that plans exceed. -/
def Parameters.violations (p : Parameters α) (location : String) (plans : List (StockingPlan α))
    (investment : α) : List (Violation α) :=
  let overInvestment := match p.maxInventoryInvestment with
    | some limit => if limit < investment then [.investment investment limit] else []
    | none => []
  let required := Scalar.sum (plans.map StockingPlan.maxStock)
  let overCapacity := match p.storageConstraints.get? location with
    | some capacity => if capacity < required then [.storage location required capacity] else []
    | none => []
  overInvestment ++ overCapacity

/-- What to advise for a report. -/
def adviceFor (skipped : List String) (violations : List (Violation α)) : List Advice :=
  [.automateReordering, .scheduleReviews, .classifyProducts]
    ++ (if skipped.isEmpty then [] else [.reviewMovements skipped.length])
    ++ (if violations.isEmpty then [] else [.adjustTargets])

/-- The report on the plans of a location, given its stock. -/
def LocationReport.ofBatch (location : String) (p : Parameters α) (batch : PlanBatch α)
    (stock : StockLevels α) (now : Instant) : LocationReport α :=
  let current := Scalar.sum (batch.plans.map fun plan =>
    (stock.get? plan.product).getD 0 * p.holdingCostRate)
  let recommended := Scalar.sum (batch.plans.map StockingPlan.totalCost)
  let holding := Scalar.sum (batch.plans.map StockingPlan.holdingCost)
  let violated := p.violations location batch.plans recommended
  { location
    madeAt := now
    currentInvestment := current
    recommendedInvestment := recommended
    savings := Scalar.max 0 (current - holding)
    plans := batch.plans
    skipped := batch.skipped
    violations := violated
    advice := adviceFor batch.skipped violated }

end

variable [Gaussian α]

/-- The plan of one product within a run over many. -/
def DemandSource.planOrSkip (source : DemandSource α) (settings : Settings α) (now : Instant)
    (location : String) (p : Parameters α) (product : String) :
    Planned α (Option (StockingPlan α)) := do
  let history ← source.denseHistory settings now.day product location settings.optimizer.historyDays
  skipping (StockingPlan.ofHistory history p settings.optimizer product location now)

def DemandSource.planAll (source : DemandSource α) (settings : Settings α) (now : Instant)
    (location : String) (products : List String) (p : Parameters α) : Planned α (PlanBatch α) := do
  let outcomes ← products.mapM (source.planOrSkip settings now location p)
  return .ofOutcomes (products.zip outcomes)

def DemandSource.report (source : DemandSource α) (settings : Settings α) (now : Instant)
    (location : String) (p : Parameters α) : Planned α (LocationReport α) := do
  let products ← source.listProducts location
  let batch ← source.planAll settings now location products p
  return .ofBatch location p batch (← source.stockLevels location) now

end Restock
