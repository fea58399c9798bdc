import Restock.Forecast
import Restock.Proofs.Demand.Gaps
import Restock.Proofs.Season.Indices
import Restock.Proofs.Units.Statistics

/-!
# Forecasts in other units

A forecast made from a history in other units is the same forecast in these units
(`Conversion.ofHistory_history`). Filling gaps does not stand in the way: a filled history is its
daily sums, and these are determined by the days and the history.
-/

namespace Restock

open Observation

theorem map_mapIdx {β γ δ : Type} (f : Nat → β → γ) (g : γ → δ) (xs : List β) :
    (xs.mapIdx f).map g = xs.mapIdx fun i x => g (f i x) := by
  refine List.ext_getElem? ?_
  intro i
  simp only [List.getElem?_map, List.getElem?_mapIdx, Option.map_map]
  rfl

/-- A change of the unit that demand and stock are counted in. -/
structure Conversion where
  /-- How many of the new units make an old one. -/
  factor : ℝ
  pos : 0 < factor

namespace Conversion

variable (u : Conversion)

/-! ## Histories -/

noncomputable def observation (o : Observation ℝ) : Observation ℝ where
  day := o.day
  quantity := u.factor * o.quantity
  finite := rfl
  nonneg := not_lt.2 (mul_nonneg u.pos.le (not_lt.1 o.nonneg))

noncomputable def history (history : List (Observation ℝ)) : List (Observation ℝ) :=
  history.map u.observation

@[simp] theorem quantities_history (history : List (Observation ℝ)) :
    quantities (u.history history) = (quantities history).map (u.factor * ·) := by
  rw [quantities, Conversion.history, List.map_map, quantities, List.map_map]
  rfl

@[simp] theorem days_history (history : List (Observation ℝ)) :
    (u.history history).map Observation.day = history.map Observation.day := by
  rw [Conversion.history, List.map_map]
  rfl

@[simp] theorem demandOn_history (history : List (Observation ℝ)) (day : Day) :
    demandOn (u.history history) day = u.factor * demandOn history day := by
  have h : (u.history history).filter (fun o => o.day = day)
      = u.history (history.filter fun o => o.day = day) := List.filter_map
  rw [demandOn, h, quantities_history, Scalar.sum_map_mul, demandOn]

theorem dailySums_history {days : Day → Prop} {history series : List (Observation ℝ)}
    (h : DailySums days history series) :
    DailySums days (u.history history) (u.history series) where
  ascending := by
    rw [days_history]
    exact h.ascending
  mem_days day := by
    rw [days_history]
    exact h.mem_days day
  quantity o ho := by
    obtain ⟨x, hx, rfl⟩ := List.mem_map.1 ho
    show u.factor * x.quantity = demandOn (u.history history) x.day
    rw [demandOn_history, h.quantity x hx]

/-- **Filling gaps** in other units gives the filled history in these units. -/
theorem densify_history (history : List (Observation ℝ)) (filled : Bool)
    (window : Option Window) :
    densify (u.history history) filled window
      = (densify history filled window).map u.history := by
  cases filled with
  | false => rfl
  | true =>
      by_cases hne : history = []
      · rw [hne]
        rfl
      · obtain ⟨series, hs, hsums⟩ := exists_densify hne window
        have hne' : u.history history ≠ [] := fun h => hne (List.map_eq_nil_iff.1 h)
        obtain ⟨series', hs', hsums'⟩ := exists_densify hne' window
        rw [days_history] at hsums'
        -- both are daily sums of the history in other units, over the same days
        rw [hs, hs', hsums'.unique (u.dailySums_history hsums)]
        rfl

theorem inMonth_history (history : List (Observation ℝ)) (m : Month) :
    Statistics.inMonth (u.history history) m
      = (Statistics.inMonth history m).map (u.factor * ·) := by
  have h : (u.history history).filter (fun o => o.day.month = m)
      = u.history (history.filter fun o => o.day.month = m) := List.filter_map
  rw [Statistics.inMonth, h]
  exact u.quantities_history _

/-- **The seasons** of a history are the same in all units. -/
theorem seasonalIndex_history (history : List (Observation ℝ)) :
    Statistics.seasonalIndex (u.history history) = Statistics.seasonalIndex history := by
  have hmonths : Statistics.monthsOf (u.history history) = Statistics.monthsOf history := by
    have h (m : Month) : (u.history history).any (fun o => o.day.month = m)
        = history.any fun o => o.day.month = m := List.any_map
    simp only [Statistics.monthsOf, h]
  simp only [Statistics.seasonalIndex_eq, Statistics.monthIndex, hmonths, inMonth_history,
    quantities_history, Scalar.mean_map_mul, Scalar.mul_nonpos_iff_left u.pos,
    mul_div_mul_left _ _ u.pos.ne']

/-! ## Forecasts -/

noncomputable def forecastDay (d : ForecastDay ℝ) : ForecastDay ℝ :=
  ⟨u.factor * d.demand, u.factor * d.low, u.factor * d.high⟩

/-- A forecast in other units: demand, intervals and trend are multiplied by the factor, the
variance is by its square. -/
noncomputable def forecast (f : Forecast ℝ) : Forecast ℝ :=
  { f with
    days := f.days.map u.forecastDay
    variance := u.factor ^ 2 * f.variance
    trend := u.factor * f.trend
    fit := f.fit.map (Statistics.FitError.scale u.factor) }

theorem fit_map_mul (policy : ForecastPolicy ℝ) (qs : List ℝ) :
    policy.fit (qs.map (u.factor * ·)) = (policy.fit qs).map (List.map (u.factor * ·)) := by
  unfold ForecastPolicy.fit
  cases policy.baselineMethod with
  | movingAverage => exact Statistics.trailingMean_map_mul u.pos qs policy.movingAverageWindow
  | exponentialSmoothing =>
      exact congrArg Except.ok (Statistics.smooth_map_mul u.factor policy.smoothingAlpha qs)

theorem forecastTrend_map_mul (qs : List ℝ) (p : Option (Parameters ℝ)) :
    forecastTrend (qs.map (u.factor * ·)) p = u.factor * forecastTrend qs p := by
  cases p with
  | none => exact Statistics.slope_map_mul u.factor qs
  | some p =>
      show Statistics.slope (qs.map (u.factor * ·)) * p.trendFactor
        = u.factor * (Statistics.slope qs * p.trendFactor)
      rw [Statistics.slope_map_mul, mul_assoc]

theorem forecastIndices_history (history : List (Observation ℝ)) (p : Option (Parameters ℝ)) :
    forecastIndices (u.history history) p = forecastIndices history p := by
  simp only [forecastIndices, seasonalIndex_history]

theorem fitAccuracy_map_scale (fit : Option (Statistics.FitError ℝ)) :
    fitAccuracy (fit.map (Statistics.FitError.scale u.factor)) = fitAccuracy fit := by
  cases fit <;> rfl

theorem dailyDemand_mul (baseline trend index : ℝ) (i : Nat) :
    dailyDemand (u.factor * baseline) (u.factor * trend) index i
      = u.factor * dailyDemand baseline trend index i := by
  simp only [dailyDemand, Scalar.max_real, mul_max_of_nonneg _ _ u.pos.le, mul_zero]
  congr 1
  ring

theorem around_mul (margin demand : ℝ) :
    ForecastDay.around (u.factor * margin) (u.factor * demand)
      = u.forecastDay (ForecastDay.around margin demand) := by
  simp only [ForecastDay.around, forecastDay, Scalar.max_real, mul_max_of_nonneg _ _ u.pos.le,
    mul_zero, mul_sub, mul_add]

theorem ofSeries_history (policy : ForecastPolicy ℝ) (now : Instant)
    (series : List (Observation ℝ)) (horizon : Nat) (product location : String)
    (p : Option (Parameters ℝ)) :
    Forecast.ofSeries policy now (u.history series) horizon product location p
      = (Forecast.ofSeries policy now series horizon product location p).map u.forecast := by
  simp only [Forecast.ofSeries, quantities_history, fit_map_mul, forecastTrend_map_mul,
    forecastIndices_history, Statistics.variance_map_mul, Scalar.sqrt_sq_mul u.pos,
    ← List.map_drop]
  cases policy.fit (quantities series) with
  | error e => rfl
  | ok fitted =>
      -- the baseline is the last fitted value; without one it is zero in all units
      have hlast : (fitted.map (u.factor * ·)).getLastD 0 = u.factor * fitted.getLastD 0 := by
        have h := List.getLastD_map (f := (u.factor * ·)) (l := fitted) (a := 0)
        simpa only [mul_zero] using h
      simp only [Except.map, Planned.ok_bind, hlast, mul_left_comm policy.confidenceZ,
        dailyDemand_mul, around_mul, ← List.map_dropLast, Statistics.fitError_map_mul u.pos]
      cases daysAhead? now.day horizon with
      | none => rfl
      | some days =>
          simp only [inCalendar, Planned.ok_bind]
          cases Statistics.fitError ((quantities series).drop 1) fitted.dropLast with
          | error e => rfl
          | ok fit =>
              simp only [Planned.ok_bind, fitAccuracy_map_scale, Planned.pure_eq_ok, forecast,
                map_mapIdx]

/-- **Forecasting from a history in other units** gives the forecast in these units, and fails as it
does without them. -/
theorem ofHistory_history (policy : ForecastPolicy ℝ) (now : Instant)
    (history : List (Observation ℝ)) (horizon : Int) (product location : String)
    (p : Option (Parameters ℝ)) (historyDays : Option Int) :
    Forecast.ofHistory policy now (u.history history) horizon product location p historyDays
      = (Forecast.ofHistory policy now history horizon product location p historyDays).map
          u.forecast := by
  unfold Forecast.ofHistory
  cases quietWindow now.day horizon historyDays with
  | error e => rfl
  | ok window =>
      simp only [Planned.ok_bind, densify_history]
      cases densify history policy.fillGaps window with
      | error e => rfl
      | ok series =>
          simp only [Except.map, Planned.ok_bind]
          have hempty : (u.history series).isEmpty = series.isEmpty := List.isEmpty_map
          rw [hempty]
          split
          · rfl
          · exact u.ofSeries_history policy now series horizon.toNat product location p

end Conversion

end Restock
