import Restock.Forecast

/-!
# What a forecast rests on

Everything that can fail in forecasting comes before the planner is asked: the series that is
analysed, its fit, the days ahead and the error of the fit (`Forecast.Basis`). From there a forecast is
put together without fail (`Forecast.ofHistory_eq`), so `Forecast.ofHistory_eq_ok_iff` says what a
forecast is. A forecast shows the index of each month, so its days follow from the other fields and the
baseline (`Forecast.Basis.days_forecast`).
-/

namespace Restock

open Observation

variable {α : Type}

theorem inCalendar_eq_ok_iff {β : Type} {x : Option β} {y : β} :
    (inCalendar x : Planned α β) = .ok y ↔ x = some y := by
  cases x with
  | none => simp [inCalendar]
  | some z => simp [inCalendar]

/-- A window is to be had for a horizon of one day at least, with the lookback in the calendar if
there is one. -/
theorem exists_quietWindow_iff {today : Day} {horizon : Int} {historyDays : Option Int} :
    (∃ window, (quietWindow today horizon historyDays : Planned α _) = .ok window) ↔ 1 ≤ horizon
      ∧ ∀ d, historyDays = some d → d ≠ 0 → ∃ window, lookback? today d = some window := by
  unfold quietWindow
  by_cases hone : 1 ≤ horizon
  · rw [if_neg (by omega)]
    split
    · simp [hone]
    · simp [hone]
    · next d hne =>
      have hne : d ≠ 0 := hne
      simp only [Planned.map_eq_ok, inCalendar_eq_ok_iff, Option.some.injEq, forall_eq', hne,
        ne_eq, not_false_eq_true, true_implies, hone, true_and]
      constructor
      · rintro ⟨_, w, hw, _⟩
        exact ⟨w, hw⟩
      · rintro ⟨w, hw⟩
        exact ⟨some w, w, hw, rfl⟩
  · rw [if_pos (by omega)]
    simp [hone]

variable [Scalar α]

@[simp] theorem Statistics.get_monthlyIndices (indices : List (Month × α)) (m : Month) :
    (monthlyIndices indices).get m = indexOf indices m :=
  Vector.getElem_ofFn _

namespace Forecast

/-- The days that the other fields of a forecast lead to from a baseline. -/
def dayByDay (f : Forecast α) (confidenceZ baseline : α) (ahead : List Day) :
    List (ForecastDay α) :=
  ahead.mapIdx fun i day => ForecastDay.around (confidenceZ * Scalar.sqrt f.variance)
    (dailyDemand baseline f.trend (f.seasonality.get day.month) (i + 1))

/-- What a forecast rests on, whatever the planner says. -/
structure Basis (α : Type) [Scalar α] where
  series : List (Observation α)
  fitted : List α
  ahead : List Day
  fit : Option (Statistics.FitError α)

namespace Basis

/-- The last fitted value. -/
def baseline (b : Basis α) : α := b.fitted.getLastD 0

def ofSeries (policy : ForecastPolicy α) (today : Day) (series : List (Observation α))
    (horizon : Nat) : Planned α (Basis α) := do
  let fitted ← policy.fit (quantities series)
  let ahead ← inCalendar (daysAhead? today horizon)
  let fit ← Statistics.fitError ((quantities series).drop 1) fitted.dropLast
  return { series, fitted, ahead, fit }

def ofHistory (policy : ForecastPolicy α) (today : Day) (history : List (Observation α))
    (horizon : Int) (product location : String) (historyDays : Option Int) :
    Planned α (Basis α) := do
  let window ← quietWindow today horizon historyDays
  let series ← densify history policy.fillGaps window
  if series.isEmpty then throw (.insufficientData .forecast product location)
  ofSeries policy today series horizon.toNat

/-- What a basis holds. -/
structure Holds (policy : ForecastPolicy α) (today : Day) (history : List (Observation α))
    (horizon : Int) (historyDays : Option Int) (b : Basis α) : Prop where
  oneDay : 1 ≤ horizon
  analysed : (quietWindow today horizon historyDays
    >>= fun window => densify history policy.fillGaps window) = .ok b.series
  nonempty : b.series ≠ []
  fitted : policy.fit (quantities b.series) = .ok b.fitted
  ahead : daysAhead? today horizon.toNat = some b.ahead
  fit : Statistics.fitError ((quantities b.series).drop 1) b.fitted.dropLast = .ok b.fit

theorem ofSeries_eq_ok_iff {policy : ForecastPolicy α} {today : Day}
    {series : List (Observation α)} {horizon : Nat} {b : Basis α} :
    ofSeries policy today series horizon = .ok b
      ↔ series = b.series ∧ policy.fit (quantities b.series) = .ok b.fitted
        ∧ daysAhead? today horizon = some b.ahead
        ∧ Statistics.fitError ((quantities b.series).drop 1) b.fitted.dropLast = .ok b.fit := by
  constructor
  · intro h
    obtain ⟨fitted, hf, h⟩ := Planned.bind_eq_ok.1 h
    obtain ⟨ahead, ha, h⟩ := Planned.bind_eq_ok.1 h
    obtain ⟨fit, he, h⟩ := Planned.bind_eq_ok.1 h
    cases h
    exact ⟨rfl, hf, inCalendar_eq_ok_iff.1 ha, he⟩
  · rintro ⟨rfl, hf, ha, he⟩
    exact Planned.bind_eq_ok.2 ⟨_, hf, Planned.bind_eq_ok.2 ⟨_, inCalendar_eq_ok_iff.2 ha,
      Planned.bind_eq_ok.2 ⟨_, he, rfl⟩⟩⟩

theorem ofHistory_eq_ok_iff {policy : ForecastPolicy α} {today : Day}
    {history : List (Observation α)} {horizon : Int} {product location : String}
    {historyDays : Option Int} {b : Basis α} :
    ofHistory policy today history horizon product location historyDays = .ok b
      ↔ b.Holds policy today history horizon historyDays := by
  constructor
  · intro h
    obtain ⟨window, hw, h⟩ := Planned.bind_eq_ok.1 h
    obtain ⟨series, hs, h⟩ := Planned.bind_eq_ok.1 h
    split at h
    · cases h
    · next hne =>
      obtain ⟨rfl, hf, ha, he⟩ := ofSeries_eq_ok_iff.1 h
      exact ⟨(exists_quietWindow_iff.1 ⟨window, hw⟩).1, Planned.bind_eq_ok.2 ⟨window, hw, hs⟩,
        fun hnil => hne (List.isEmpty_iff.2 hnil), hf, ha, he⟩
  · intro h
    obtain ⟨window, hw, hs⟩ := Planned.bind_eq_ok.1 h.analysed
    have hne : b.series.isEmpty = false := List.isEmpty_eq_false_iff.2 h.nonempty
    refine Planned.bind_eq_ok.2 ⟨window, hw, Planned.bind_eq_ok.2 ⟨b.series, hs, ?_⟩⟩
    rw [hne]
    exact ofSeries_eq_ok_iff.2 ⟨rfl, h.fitted, h.ahead, h.fit⟩

/-- The forecast that a basis supports, with a planner's overrides or without. -/
def forecast (policy : ForecastPolicy α) (now : Instant) (product location : String)
    (p : Option (Parameters α)) (b : Basis α) : Forecast α :=
  let trend := forecastTrend (quantities b.series) p
  let indices := forecastIndices b.series p
  let variance := Statistics.variance (quantities b.series)
  let margin := policy.confidenceZ * Scalar.sqrt variance
  { product, location
    madeAt := now
    days := b.ahead.mapIdx fun i day => ForecastDay.around margin
      (dailyDemand b.baseline trend (Statistics.indexOf indices day.month) (i + 1))
    variance
    seasonality := Statistics.monthlyIndices indices
    trend
    accuracy := fitAccuracy b.fit
    method := policy.baselineMethod
    fit := b.fit }

/-- **The days of a forecast** follow from its baseline and its other fields. -/
theorem days_forecast (policy : ForecastPolicy α) (now : Instant) (product location : String)
    (p : Option (Parameters α)) (b : Basis α) :
    let f := forecast policy now product location p b
    f.days = f.dayByDay policy.confidenceZ b.baseline b.ahead := by
  simp only [dayByDay, forecast, Statistics.get_monthlyIndices]

/-- With gaps left open, it is the history itself that is analysed. -/
theorem Holds.series_eq {policy : ForecastPolicy α} {today : Day}
    {history : List (Observation α)} {horizon : Int} {historyDays : Option Int} {b : Basis α}
    (h : b.Holds policy today history horizon historyDays) (hfill : policy.fillGaps = false) :
    b.series = history := by
  obtain ⟨window, _, hs⟩ := Planned.bind_eq_ok.1 h.analysed
  rw [hfill] at hs
  exact (Except.ok.inj hs).symm

/-- Unless a planner says otherwise, the index that was measured for a month is shown. -/
theorem season_forecast_none (policy : ForecastPolicy α) (now : Instant)
    (product location : String) (b : Basis α) (m : Month) :
    (b.forecast policy now product location none).seasonality.get m
      = Statistics.indexOf (Statistics.seasonalIndex b.series) m :=
  Statistics.get_monthlyIndices _ m

end Basis

theorem ofSeries_eq (policy : ForecastPolicy α) (now : Instant) (series : List (Observation α))
    (horizon : Nat) (product location : String) (p : Option (Parameters α)) :
    ofSeries policy now series horizon product location p
      = (Basis.ofSeries policy now.day series horizon).map
          (Basis.forecast policy now product location p) := by
  simp only [ofSeries, Basis.ofSeries]
  cases policy.fit (quantities series) with
  | error e => rfl
  | ok fitted =>
      simp only [Planned.ok_bind]
      cases inCalendar (daysAhead? now.day horizon) with
      | error e => rfl
      | ok ahead =>
          simp only [Planned.ok_bind]
          cases Statistics.fitError ((quantities series).drop 1) fitted.dropLast with
          | error e => rfl
          | ok fit => rfl

/-- **A forecast is put together from its basis**, and fails only where that does. -/
theorem ofHistory_eq (policy : ForecastPolicy α) (now : Instant) (history : List (Observation α))
    (horizon : Int) (product location : String) (p : Option (Parameters α))
    (historyDays : Option Int) :
    ofHistory policy now history horizon product location p historyDays
      = (Basis.ofHistory policy now.day history horizon product location historyDays).map
          (Basis.forecast policy now product location p) := by
  unfold ofHistory Basis.ofHistory
  cases quietWindow now.day horizon historyDays with
  | error e => rfl
  | ok window =>
      simp only [Planned.ok_bind]
      cases densify history policy.fillGaps window with
      | error e => rfl
      | ok series =>
          simp only [Planned.ok_bind]
          split
          · rfl
          · exact ofSeries_eq policy now series horizon.toNat product location p

theorem ofHistory_eq_ok_iff {policy : ForecastPolicy α} {now : Instant}
    {history : List (Observation α)} {horizon : Int} {product location : String}
    {p : Option (Parameters α)} {historyDays : Option Int} {f : Forecast α} :
    ofHistory policy now history horizon product location p historyDays = .ok f
      ↔ ∃ b : Basis α, b.Holds policy now.day history horizon historyDays
        ∧ f = b.forecast policy now product location p := by
  rw [ofHistory_eq, Planned.map_eq_ok]
  simp only [Basis.ofHistory_eq_ok_iff]

end Forecast

end Restock
