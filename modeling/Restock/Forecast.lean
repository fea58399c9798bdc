import Restock.Calendar.Instant
import Restock.Demand.Daily
import Restock.Parameters.Basic
import Restock.Policy
import Restock.Statistics.Dispersion
import Restock.Statistics.FitError
import Restock.Statistics.Season
import Restock.Statistics.Smoothing
import Restock.Statistics.Trend

/-!
Day-by-day forecasts: a smoothed baseline, a linear trend and a seasonal index for each month.

The demand of the `i`-th day is `(baseline + trend · i)` times the index of the day's month, and
never below zero. Its interval reaches the same margin to both sides, and never below zero either.
-/
namespace Restock
variable {α : Type} [Scalar α]

/-- The demand expected on one day, with its interval. -/
structure ForecastDay (α : Type) where
  demand : α
  low : α
  high : α

/-- What is expected to be demanded, as far as stock is concerned. -/
structure Outlook (α : Type) where
  product : String
  location : String
  /-- The days over which the mean demand is taken. -/
  horizonDays : Int
  daily : List α
  variance : α
  trend : α

/-- A forecast; its first day is the one after it was made. -/
structure Forecast (α : Type) where
  product : String
  location : String
  madeAt : Instant
  days : List (ForecastDay α)
  variance : α
  /-- The index of each month. -/
  seasonality : Vector α 12
  trend : α
  accuracy : α
  method : BaselineMethod
  fit : Option (Statistics.FitError α)

namespace Forecast

def daily (f : Forecast α) : List α := f.days.map ForecastDay.demand

def totalDemand (f : Forecast α) : α := Scalar.sum f.daily

/-- What a forecast says about stock. -/
def outlook (f : Forecast α) : Outlook α :=
  ⟨f.product, f.location, f.days.length, f.daily, f.variance, f.trend⟩

end Forecast

/-- The fitted series under a policy. -/
def ForecastPolicy.fit (policy : ForecastPolicy α) (quantities : List α) : Planned α (List α) :=
  match policy.baselineMethod with
  | .movingAverage => Statistics.trailingMean quantities policy.movingAverageWindow
  | .exponentialSmoothing => .ok (Statistics.smooth policy.smoothingAlpha quantities)

/-- The indices of the months: the measured ones, for the months that occur; with a planner's factors
those of all twelve months, each times its factor. -/
def forecastIndices (history : List (Observation α)) (p : Option (Parameters α)) :
    List (Month × α) :=
  let measured := Statistics.seasonalIndex history
  match p with
  | none => measured
  | some p => Month.all.map fun m => (m, Statistics.indexOf measured m * p.seasonalityFactor m)

/-- The trend: the measured one, times the planner's factor if there is one. -/
def forecastTrend (quantities : List α) (p : Option (Parameters α)) : α :=
  match p with
  | none => Statistics.slope quantities
  | some p => Statistics.slope quantities * p.trendFactor

/-- The accuracy of a fit: what its percentage error leaves of one, between zero and one; zero when
there is no percentage error. -/
def fitAccuracy (fit : Option (Statistics.FitError α)) : α :=
  match fit.bind Statistics.FitError.mape with
  | some mape => Scalar.min 1 (Scalar.max 0 (1 - mape / Scalar.ofNat 100))
  | none => 0

/-- The days after `today`, `horizon` of them, if the calendar has them all. -/
def daysAhead? (today : Day) (horizon : Nat) : Option (List Day) :=
  match today.shift? horizon with
  | some last => some ((today.span last).drop 1)
  | none => none

/-- The demand of the `i`-th day, under the index of its month. -/
def dailyDemand (baseline trend index : α) (i : Nat) : α :=
  Scalar.max 0 ((baseline + trend * Scalar.ofNat i) * index)

/-- A demand with the margin to both sides of it. -/
def ForecastDay.around (margin demand : α) : ForecastDay α :=
  ⟨demand, Scalar.max 0 (demand - margin), demand + margin⟩

/-- The window whose quiet days count, when the history was fetched with a lookback other than
zero. The horizon must have one day at least. -/
def quietWindow (today : Day) (horizon : Int) (historyDays : Option Int) :
    Planned α (Option Window) :=
  if horizon < 1 then .error (.invalidParameter (.horizon horizon))
  else match historyDays with
    | none => .ok none
    | some 0 => .ok none
    | some d => (inCalendar (lookback? today d)).map some

/-- Forecasts the demand of the next `horizon` days from a series of observations. -/
def Forecast.ofSeries (policy : ForecastPolicy α) (now : Instant) (series : List (Observation α))
    (horizon : Nat) (product location : String) (p : Option (Parameters α)) :
    Planned α (Forecast α) := do
  let quantities := Observation.quantities series
  let fitted ← policy.fit quantities
  let baseline := fitted.getLastD 0
  let trend := forecastTrend quantities p
  let indices := forecastIndices series p
  let variance := Statistics.variance quantities
  let margin := policy.confidenceZ * Scalar.sqrt variance
  let ahead ← inCalendar (daysAhead? now.day horizon)
  let days := ahead.mapIdx fun i day =>
    ForecastDay.around margin
      (dailyDemand baseline trend (Statistics.indexOf indices day.month) (i + 1))
  let fit ← Statistics.fitError (quantities.drop 1) fitted.dropLast
  return {
    product, location
    madeAt := now
    days, variance
    seasonality := Statistics.monthlyIndices indices
    trend
    accuracy := fitAccuracy fit
    method := policy.baselineMethod
    fit }

/-- Forecasts the demand of the next `horizon` days. With gaps filled, quiet days count as zero
demand over the lookback of `historyDays` that the history was fetched with. -/
def Forecast.ofHistory (policy : ForecastPolicy α) (now : Instant) (history : List (Observation α))
    (horizon : Int) (product location : String) (p : Option (Parameters α))
    (historyDays : Option Int) : Planned α (Forecast α) := do
  let window ← quietWindow now.day horizon historyDays
  let series ← densify history policy.fillGaps window
  if series.isEmpty then throw (.insufficientData .forecast product location)
  Forecast.ofSeries policy now series horizon.toNat product location p

/-- Forecasts from rows that are yet to be observed; the other arguments are checked first. -/
def Forecast.ofRows (policy : ForecastPolicy α) (now : Instant) (rows : List (Day × α))
    (horizon : Int) (product location : String) (p : Option (Parameters α))
    (historyDays : Option Int) : Planned α (Forecast α) := do
  discard (quietWindow now.day horizon historyDays)
  Forecast.ofHistory policy now (← Observation.ofPairs? rows) horizon product location p historyDays

end Restock
