import Restock.Scalar

/-!
How a deployment tunes the planning: one record of settings for each kind of plan, with its standard
values as defaults.
-/
namespace Restock

/-- How the baseline of a forecast is smoothed. -/
inductive BaselineMethod where
  | exponentialSmoothing
  | movingAverage
deriving DecidableEq

/-- How the probabilities of running out are given: as a flag, or under a normal approximation. -/
inductive ProbabilityMode where
  | binary
  | normal
deriving DecidableEq

/-- The tuning of forecasts. -/
structure ForecastPolicy (α : Type) [Scalar α] where
  smoothingAlpha : α := Scalar.fraction 3 1
  baselineMethod : BaselineMethod := .exponentialSmoothing
  movingAverageWindow : Int := 7
  /-- Half the width of an interval in standard deviations. -/
  confidenceZ : α := Scalar.fraction 196 2
  /-- Whether days without movements count as days of zero demand. -/
  fillGaps : Bool := false

/-- The tuning of stocking parameters. -/
structure OptimizerPolicy (α : Type) [Scalar α] where
  /-- Half the width of the cost interval, as a share of the cost. -/
  costBand : α := Scalar.fraction 1 1
  validityPeriodDays : Int := 30
  historyDays : Int := 365
  safetyStockHistoryDays : Int := 180
  methodLabel : String := "Economic Order Quantity with Safety Stock"

/-- The three days at which the probability of having run out is given. -/
structure Checkpoints where
  first : Int := 30
  second : Int := 60
  third : Int := 90

/-- The tuning of stockout risks; the thresholds are days until stock runs out. -/
structure RiskPolicy (α : Type) [Scalar α] where
  criticalDays : Int := 7
  highDays : Int := 30
  mediumDays : Int := 60
  checkpoints : Checkpoints := {}
  probabilityMode : ProbabilityMode := .binary
  defaultHorizonDays : Int := 90
  /-- The coefficient of variation above which demand is called volatile. -/
  volatileCV : α := Scalar.fraction 5 1

/-- The thresholds and the economics of moving stock between locations. -/
structure RebalancingPolicy (α : Type) [Scalar α] where
  surplusThreshold : α := Scalar.ofNat 100
  deficitThreshold : α := Scalar.ofNat 50
  /-- The share of the stock at the source that a transfer takes. -/
  transferFraction : α := Scalar.fraction 3 1
  maxTransferQuantity : α := Scalar.ofNat 100
  minTransferQuantity : α := Scalar.ofNat 10
  transferCostPerUnit : α := Scalar.fraction 5 1
  benefitPerUnit : α := Scalar.ofNat 2
  urgency : String := "Medium"
  emptyDestinationUrgency : String := "High"
  reason : String := "Excess stock rebalancing"

/-- What moving one unit saves. -/
def RebalancingPolicy.savingsPerUnit {α : Type} [Scalar α] (p : RebalancingPolicy α) : α :=
  p.benefitPerUnit - p.transferCostPerUnit

/-- The tuning of turnover plans. -/
structure TurnoverPolicy (α : Type) [Scalar α] where
  unitValue : α := Scalar.ofNat 10
  highPriorityExcessUnits : α := Scalar.ofNat 100
  implementationTimelineDays : Int := 90
  historyDays : Int := 365

end Restock
