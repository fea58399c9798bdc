import Restock.Network
import Restock.Replenishment
import Restock.Report
import Restock.Risk
import Restock.Seasonality
import Restock.Turnover

/-!
All plans against one source, under one set of settings and at one moment.
-/
namespace Restock
variable {α : Type} [Scalar α]

/-- A source, the settings and the current moment. -/
structure Planner (α : Type) [Scalar α] where
  source : DemandSource α
  settings : Settings α
  now : Instant

/-- The days that a month of lookback counts. -/
def daysPerMonth : Int := 30

namespace Planner

/-- The history of a product, with its quiet days if the settings ask for them. -/
def history (e : Planner α) (product location : String) (daysBack : Int) :
    Planned α (List (Observation α)) :=
  e.source.denseHistory e.settings e.now.day product location daysBack

/-- The safety stock of a product, from its recent history. -/
def safetyStock (e : Planner α) (product location : String)
    (serviceLevel leadTimeDays variability : α) : Planned α α := do
  let history ← e.history product location e.settings.optimizer.safetyStockHistoryDays
  Restock.safetyStock history serviceLevel leadTimeDays variability

def forecast (e : Planner α) (product location : String) (horizon : Int)
    (p : Option (Parameters α)) : Planned α (Forecast α) := do
  let days := e.settings.optimizer.historyDays
  let history ← e.source.fetchHistory product location days
  Forecast.ofHistory e.settings.forecast e.now history horizon product location p (some days)

/-- The seasonal profile of a product over so many months. The base level is the current stock
unless one is given. -/
def seasonalProfile (e : Planner α) (product location : String) (months : Int)
    (base : Option α) : Planned α (SeasonalProfile α) := do
  let history ← e.history product location (max 0 months * daysPerMonth)
  let base ← match base with
    | some units => pure units
    | none => e.source.currentStock product location
  SeasonalProfile.ofHistory history months base product location

/-- The proposal for a network of locations. -/
def rebalance (e : Planner α) (locations : List String) : Planned α (Proposal α) := do
  let locations := distinct locations
  let levels ← locations.mapM e.source.stockLevels
  return .ofStock e.settings.rebalancing (.ofList (locations.zip levels)) locations e.now

/-- The stock and the yearly sales of each stocked product of a location. -/
def positions (e : Planner α) (location : String) : Planned α (List (Position α)) := do
  let stock ← e.source.stockLevels location
  stock.entries.mapM fun (product, units) => do
    let history ← e.source.fetchHistory product location e.settings.turnover.historyDays
    return ⟨product, units, Scalar.sum (Observation.quantities history)⟩

def turnover (e : Planner α) (location : String) (target : α) (p : Parameters α) :
    Planned α (TurnoverPlan α) := do
  TurnoverPlan.ofPositions e.settings.turnover location (← e.positions location) target
    p.holdingCostRate e.now

section
variable {α : Type} [Gaussian α]

def stockingPlan (e : Planner α) (product location : String) (p : Parameters α) :
    Planned α (StockingPlan α) := do
  let history ← e.history product location e.settings.optimizer.historyDays
  StockingPlan.ofHistory history p e.settings.optimizer product location e.now

def report (e : Planner α) (location : String) (p : Parameters α) :
    Planned α (LocationReport α) :=
  e.source.report e.settings e.now location p

/-- The reorder rules of all products of a location with usable demand. -/
def reorderRules (e : Planner α) (location : String) (p : Parameters α) (reviewPeriodDays : Int) :
    Planned α (List (ReorderRule α)) := do
  let products ← e.source.listProducts location
  let batch ← e.source.planAll e.settings e.now location products p
  batch.plans.mapM fun plan => ReorderRule.ofPlan plan p reviewPeriodDays

/-- The stockout outlook of a product over a horizon, the standard one unless it is given. -/
def stockoutRisk (e : Planner α) (product location : String) (horizon : Option Int) :
    Planned α (RiskAnalysis α) := do
  let days := horizon.getD e.settings.risk.defaultHorizonDays
  let forecast ← e.forecast product location days none
  let stock ← e.source.currentStock product location
  forecast.outlook.risk stock e.settings.risk e.now

end

end Planner
end Restock
