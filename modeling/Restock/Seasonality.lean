import Restock.Statistics.Dispersion
import Restock.Statistics.Season
import Restock.Statistics.Trend

/-!
The seasonal profile of a product and the stock levels that it implies.

Months whose index is far above the mean of the indices are peak months, those far below it low
months. The recommended stock of a month scales a base level with the month's index.
-/
namespace Restock
variable {α : Type} [Scalar α]

/-- The direction of demand over a history. -/
inductive TrendDirection where
  | increasing
  | decreasing
  | stable
deriving DecidableEq

/-- How much is demanded in a month, compared with the average. -/
inductive SeasonLevel where
  | highDemand
  | lowDemand
  | normalDemand
deriving DecidableEq

/-- The recommended stock of a month. -/
structure SeasonalAdjustment (α : Type) where
  month : Month
  stockLevel : α
  percentChange : α
  level : SeasonLevel

/-- The seasonal profile of a product at a location. -/
structure SeasonalProfile (α : Type) where
  product : String
  location : String
  periodMonths : Int
  indices : List (Month × α)
  peakMonths : List Month
  lowMonths : List Month
  variation : α
  trend : TrendDirection
  adjustments : List (SeasonalAdjustment α)

/-- Whether stock should follow the seasons: some month is a peak or a low. -/
def SeasonalProfile.isSeasonal {α : Type} (p : SeasonalProfile α) : Bool :=
  !p.peakMonths.isEmpty || !p.lowMonths.isEmpty

/-- The ratio above which an index is a peak. -/
def peakRatio : α := Scalar.fraction 12 1

/-- The ratio below which an index is a low. -/
def lowRatio : α := Scalar.fraction 8 1

/-- The slope, up or down, that still counts as stable. -/
def trendTolerance : α := Scalar.fraction 1 2

def TrendDirection.of (slope : α) : TrendDirection :=
  if trendTolerance < slope then .increasing
  else if slope < -trendTolerance then .decreasing
  else .stable

/-- The level of a month's index. -/
def SeasonLevel.of (index : α) : SeasonLevel :=
  if peakRatio < index then .highDemand
  else if index < lowRatio then .lowDemand
  else .normalDemand

/-- The months whose index satisfies a condition. -/
def monthsWhere (indices : List (Month × α)) (holds : α → Bool) : List Month :=
  (indices.filter fun e => holds e.2).map Prod.fst

/-- The spread of the indices relative to their mean; zero when the mean is not positive. -/
def variationCoefficient (indices : List α) : α :=
  let mean := Scalar.mean indices
  if 0 < mean then Statistics.populationDeviation indices / mean else 0

/-- The recommended stock of a month with an index. -/
def SeasonalAdjustment.of (base : α) (m : Month) (index : α) : SeasonalAdjustment α :=
  ⟨m, base * index, (index - 1) * Scalar.ofNat 100, SeasonLevel.of index⟩

/-- Accepts a period of one month at least and a base level that is not negative. -/
def checkSeasonalScope (periodMonths : Int) (base : α) : Planned α Unit :=
  if periodMonths < 1 then .error (.invalidParameter (.analysisPeriod periodMonths))
  else if base < 0 then .error (.invalidParameter (.negativeBaseStock base))
  else .ok ()

def SeasonalProfile.ofHistory (history : List (Observation α)) (periodMonths : Int) (base : α)
    (product location : String) : Planned α (SeasonalProfile α) := do
  checkSeasonalScope periodMonths base
  if history.isEmpty then throw (.insufficientData .seasonality product location)
  let indices := Statistics.seasonalIndex history
  let values := indices.map Prod.snd
  let mean := Scalar.mean values
  return {
    product, location, periodMonths, indices
    peakMonths := monthsWhere indices fun s => decide (mean * peakRatio < s)
    lowMonths := monthsWhere indices fun s => decide (s < mean * lowRatio)
    variation := variationCoefficient values
    trend := .of (Statistics.slope (Observation.quantities history))
    adjustments := Month.all.map fun m =>
      SeasonalAdjustment.of base m (Statistics.indexOf indices m) }

/-- The seasonal profile of rows that are yet to be observed; the other arguments are checked
first. -/
def SeasonalProfile.ofRows (rows : List (Day × α)) (periodMonths : Int) (base : α)
    (product location : String) : Planned α (SeasonalProfile α) := do
  checkSeasonalScope periodMonths base
  SeasonalProfile.ofHistory (← Observation.ofPairs? rows) periodMonths base product location

end Restock
