import Restock.Proofs.Arithmetic.LeastSquares
import Restock.Proofs.Forecast.Feasible
import Restock.Proofs.Season.Indices

/-!
# Forecasts by their own fields

A forecast can be checked against itself: with the last fitted value at hand, each of its days follows
from the trend, the variance and the twelve indices that it shows (`Forecast.ofHistory_recomputed`). The
demand of a day lies within its interval, and the accuracy between zero and one; it is zero where no
later observation has any demand that a fit could miss by a share.
-/

namespace Restock

open Observation

/-! ## Accuracy -/

/-- Where every actual value is zero there is no percentage error. -/
theorem Statistics.mape_eq_none {actual predicted : List ℝ} (hzero : ∀ x ∈ actual, x = 0)
    {fit : Option (FitError ℝ)} (h : fitError actual predicted = .ok fit) :
    fit.bind FitError.mape = none := by
  have hany : (actual.any fun x => !(x == 0)) = false := by
    rw [List.any_eq_false]
    intro x hx
    simp [hzero x hx]
  unfold fitError at h
  split at h
  · rw [← Except.ok.inj h]
    rfl
  · obtain ⟨pairs, _, h⟩ := Planned.bind_eq_ok.1 h
    rw [hany] at h
    rw [← Except.ok.inj h]
    rfl

theorem fitAccuracy_mem_Icc (fit : Option (Statistics.FitError ℝ)) :
    fitAccuracy fit ∈ Set.Icc (0 : ℝ) 1 := by
  unfold fitAccuracy
  split
  · rw [Scalar.min_real, Scalar.max_real]
    exact ⟨le_min zero_le_one (le_max_left _ _), min_le_left _ _⟩
  · exact ⟨le_refl 0, zero_le_one⟩

namespace Forecast

/-! ## Recomputing a forecast -/

/-- What the `i`-th day of a forecast says, by the other fields of the forecast and a baseline. -/
structure Recomputes (f : Forecast ℝ) (confidenceZ baseline : ℝ) (i : Nat) (month : Month)
    (d : ForecastDay ℝ) : Prop where
  demand : d.demand = max 0 ((baseline + f.trend * i) * f.seasonality.get month)
  low : d.low = max 0 (d.demand - confidenceZ * √f.variance)
  high : d.high = d.demand + confidenceZ * √f.variance
  low_nonneg : 0 ≤ d.low
  low_le : d.low ≤ d.demand
  le_high : d.demand ≤ d.high

/-- A forecast by its own fields and the baseline of the series that it was made from. Its indices are
twelve by their type. -/
structure Recomputed (f : Forecast ℝ) (today : Day) (horizon : Int) (confidenceZ : ℝ)
    (series : List (Observation ℝ)) (baseline : ℝ) : Prop where
  length_days : (f.days.length : Int) = horizon
  /-- The days are the ones after today, each under the index of its own month. -/
  day : ∀ i : Nat, 1 ≤ i → (i : Int) ≤ horizon → ∃ day d, today.shift? i = some day
    ∧ f.days[i - 1]? = some d ∧ f.Recomputes confidenceZ baseline i day.month d
  accuracy_mem : f.accuracy ∈ Set.Icc (0 : ℝ) 1
  /-- Without demand after the first observation there is nothing to score. -/
  unscored : series.length = 1 ∨ (∀ o ∈ series.tail, o.quantity = 0) → f.accuracy = 0

theorem recomputes_around (f : Forecast ℝ) {confidenceZ : ℝ} (hz : 0 ≤ confidenceZ)
    (baseline : ℝ) (i : Nat) (month : Month) :
    f.Recomputes confidenceZ baseline i month
      (ForecastDay.around (confidenceZ * √f.variance)
        (dailyDemand baseline f.trend (f.seasonality.get month) i)) := by
  have hmargin : 0 ≤ confidenceZ * √f.variance := mul_nonneg hz (Real.sqrt_nonneg _)
  have hdemand : dailyDemand baseline f.trend (f.seasonality.get month) i
      = max 0 ((baseline + f.trend * i) * f.seasonality.get month) := by
    rw [dailyDemand, Scalar.max_real, Scalar.ofNat_real]
  refine ⟨hdemand, Scalar.max_real _ _, rfl, ?_, ?_, le_add_of_nonneg_right hmargin⟩
  · exact (le_max_left _ _).trans_eq (Scalar.max_real _ _).symm
  · refine (Scalar.max_real _ _).trans_le (max_le ?_ (sub_le_self _ hmargin))
    rw [hdemand]
    exact le_max_left _ _

namespace Basis

variable {policy : ForecastPolicy ℝ} {today : Day} {history : List (Observation ℝ)}
  {horizon : Int} {historyDays : Option Int} {b : Basis ℝ}

theorem Holds.getLast?_fitted (h : b.Holds policy today history horizon historyDays) :
    b.fitted.getLast? = some b.baseline := by
  have hne : b.fitted ≠ [] := by
    rw [← List.length_pos_iff, policy.length_fit h.fitted, quantities, List.length_map]
    exact List.length_pos_iff.2 h.nonempty
  rw [baseline, List.getLastD_eq_getLast?, List.getLast?_eq_some_getLast hne, Option.getD_some]

theorem Holds.unscored (h : b.Holds policy today history horizon historyDays)
    (hidle : b.series.length = 1 ∨ ∀ o ∈ b.series.tail, o.quantity = 0) : fitAccuracy b.fit = 0 := by
  have hidle : ∀ o ∈ b.series.tail, o.quantity = 0 := by
    refine hidle.elim (fun hlength => ?_) id
    obtain ⟨o, ho⟩ := List.length_eq_one_iff.1 hlength
    simp [ho]
  have hzero : ∀ x ∈ (quantities b.series).drop 1, x = 0 := by
    intro x hx
    rw [quantities, ← List.map_drop, List.drop_one] at hx
    obtain ⟨o, ho, rfl⟩ := List.mem_map.1 hx
    exact hidle o ho
  rw [fitAccuracy, Statistics.mape_eq_none hzero h.fit]

theorem Holds.recomputed {now : Instant} (h : b.Holds policy now.day history horizon historyDays)
    (hz : 0 ≤ policy.confidenceZ) (product location : String) (p : Option (Parameters ℝ)) :
    (b.forecast policy now product location p).Recomputed now.day horizon policy.confidenceZ
      b.series b.baseline := by
  have hdays := b.days_forecast policy now product location p
  generalize hf : b.forecast policy now product location p = f at hdays ⊢
  have hone := h.oneDay
  have hahead := length_daysAhead? h.ahead
  refine ⟨?_, ?_, ?_, ?_⟩
  · rw [hdays, dayByDay, List.length_mapIdx, hahead]
    exact Int.toNat_of_nonneg (by omega)
  · intro i hi hle
    obtain ⟨n, rfl⟩ : ∃ n, i = n + 1 := ⟨i - 1, by omega⟩
    have hn : n < b.ahead.length := by omega
    have hday := getElem?_daysAhead? h.ahead (hahead ▸ hn)
    rw [List.getElem?_eq_getElem hn] at hday
    refine ⟨b.ahead[n], _, hday.symm, ?_, f.recomputes_around hz b.baseline (n + 1) _⟩
    rw [hdays, dayByDay, Nat.add_sub_cancel, List.getElem?_mapIdx, List.getElem?_eq_getElem hn]
    rfl
  · rw [← hf]
    exact fitAccuracy_mem_Icc b.fit
  · rw [← hf]
    exact h.unscored

end Basis

/-- **A forecast can be recomputed from its own fields** and the last fitted value. There is one
wherever there can be. -/
theorem ofHistory_recomputed {policy : ForecastPolicy ℝ} (hz : 0 ≤ policy.confidenceZ)
    (now : Instant) (history : List (Observation ℝ)) (horizon : Int) (product location : String)
    (p : Option (Parameters ℝ)) (historyDays : Option Int) :
    ((∃ f, ofHistory policy now history horizon product location p historyDays = .ok f)
      ↔ Feasible policy now.day history horizon historyDays)
    ∧ ∀ f, ofHistory policy now history horizon product location p historyDays = .ok f →
      ∃ series fitted baseline,
        (quietWindow now.day horizon historyDays
          >>= fun window => densify history policy.fillGaps window) = .ok series
        ∧ policy.fit (quantities series) = .ok fitted ∧ fitted.getLast? = some baseline
        ∧ f.Recomputed now.day horizon policy.confidenceZ series baseline := by
  refine ⟨exists_ofHistory_iff, fun f h => ?_⟩
  obtain ⟨b, hb, rfl⟩ := ofHistory_eq_ok_iff.1 h
  exact ⟨b.series, b.fitted, b.baseline, hb.analysed, hb.fitted, hb.getLast?_fitted,
    hb.recomputed hz product location p⟩

/-! ## Rising sales -/

/-- On the last two days of January and on the first of February one more was sold each time. -/
noncomputable def risingSales : List (Observation ℝ) :=
  [⟨⟨30, by decide, by decide⟩, 7, rfl, not_lt.2 (Nat.ofNat_nonneg 7)⟩,
    ⟨⟨31, by decide, by decide⟩, 8, rfl, not_lt.2 (Nat.ofNat_nonneg 8)⟩,
    ⟨⟨32, by decide, by decide⟩, 9, rfl, not_lt.2 (Nat.ofNat_nonneg 9)⟩]

/-- The last day but one of that February. -/
def lateFebruary : Instant := ⟨⟨58, by decide, by decide⟩, 0, 0, 0, 0, 0⟩

theorem feasible_risingSales :
    Feasible ({} : ForecastPolicy ℝ) lateFebruary.day risingSales 2 none where
  observed := List.cons_ne_nil _ _
  oneDay := by decide
  onePlace _ := by decide
  ahead := ⟨⟨60, by decide, by decide⟩, rfl⟩
  back _ h := by cases h

/-- Each sale is worth three tenths of what is expected next. -/
theorem fit_risingSales :
    ({} : ForecastPolicy ℝ).fit (quantities risingSales) = .ok [7, 73 / 10, 781 / 100] := by
  show Except.ok (Statistics.smooth (Scalar.fraction 3 1) [7, 8, 9]) = _
  simp only [Statistics.smooth, Statistics.smoothFrom, Scalar.fraction_real]
  norm_num

/-- The sales rise by one, with a variance of one. February sold more than the mean of the three days by
an eighth, and nothing is known of March. -/
theorem shows_risingSales {f : Forecast ℝ}
    (h : ofHistory {} lateFebruary risingSales 2 "bolt" "depot" none none = .ok f) :
    f.trend = 1 ∧ f.variance = 1 ∧ f.seasonality.get 1 = 9 / 8 ∧ f.seasonality.get 2 = 1 := by
  obtain ⟨b, hb, rfl⟩ := ofHistory_eq_ok_iff.1 h
  have hseries : b.series = risingSales := hb.series_eq rfl
  have hall : Scalar.mean (quantities risingSales) = 8 := by
    show Scalar.mean [7, 8, 9] = _
    norm_num [Scalar.mean_real]
  have hfebruary : Scalar.mean (Statistics.inMonth risingSales 1) = 9 := by
    show Scalar.mean [9] = _
    norm_num [Scalar.mean_real]
  refine ⟨?_, ?_, ?_, ?_⟩
  · show Statistics.slope (quantities b.series) = 1
    have hline : (⟨7, 1⟩ : Statistics.Line).series 3 = quantities risingSales := by
      show _ = [7, 8, 9]
      norm_num [Statistics.Line.series, Statistics.Line.value, List.range_succ]
    rw [hseries, ← hline, Statistics.slope_series _ (by decide)]
  · show Statistics.variance (quantities b.series) = 1
    rw [hseries]
    show Statistics.variance [7, 8, 9] = 1
    norm_num [Statistics.variance_real, Statistics.squaredDeviations]
  · rw [b.season_forecast_none, hseries, Statistics.indexOf_seasonalIndex, if_pos (by decide +kernel),
      Statistics.monthIndex, hall, hfebruary, if_neg (by norm_num)]
  · rw [b.season_forecast_none, hseries, Statistics.indexOf_seasonalIndex, if_neg (by decide +kernel)]

/-- From the last fitted value the trend is followed into March, which goes by an index of its own. -/
theorem risingSales_recomputed :
    ∃ f first second, ofHistory {} lateFebruary risingSales 2 "bolt" "depot" none none = .ok f
      ∧ f.days[0]? = some first ∧ f.days[1]? = some second ∧ f.days.length = 2
      ∧ first.demand = (781 / 100 + 1) * (9 / 8) ∧ first.high = first.demand + 196 / 100
      ∧ second.demand = 781 / 100 + 2 ∧ second.high = second.demand + 196 / 100
      ∧ f.accuracy ∈ Set.Icc 0 1 := by
  have hz : 0 ≤ ({} : ForecastPolicy ℝ).confidenceZ := by
    show (0 : ℝ) ≤ Scalar.fraction 196 2
    rw [Scalar.fraction_real]
    positivity
  obtain ⟨hexists, hrecomputed⟩ :=
    ofHistory_recomputed hz lateFebruary risingSales 2 "bolt" "depot" none none
  obtain ⟨f, hf⟩ := hexists.2 feasible_risingSales
  obtain ⟨series, fitted, baseline, hseries, hfit, hlast, hr⟩ := hrecomputed f hf
  obtain ⟨htrend, hvariance, hfebruary, hmarch⟩ := shows_risingSales hf
  have hbaseline : baseline = 781 / 100 := by
    obtain rfl : risingSales = series := Except.ok.inj hseries
    obtain rfl : [7, 73 / 10, 781 / 100] = fitted := Except.ok.inj (fit_risingSales.symm.trans hfit)
    exact (Option.some.inj hlast).symm
  have hmargin : ({} : ForecastPolicy ℝ).confidenceZ * √f.variance = 196 / 100 := by
    rw [hvariance, Real.sqrt_one, mul_one]
    norm_num
  obtain ⟨_, first, hday, hfirst, hfr⟩ := hr.day 1 (by decide) (by decide)
  obtain ⟨_, second, hday', hsecond, hsr⟩ := hr.day 2 (by decide) (by decide)
  -- the days ahead are the last of February and the first of March
  obtain rfl : (⟨59, by decide, by decide⟩ : Day) = _ := Option.some.inj hday
  obtain rfl : (⟨60, by decide, by decide⟩ : Day) = _ := Option.some.inj hday'
  have hinFebruary : Day.month ⟨59, by decide, by decide⟩ = 1 := by decide +kernel
  have hinMarch : Day.month ⟨60, by decide, by decide⟩ = 2 := by decide +kernel
  refine ⟨f, first, second, hf, hfirst, hsecond, by exact_mod_cast hr.length_days, ?_, ?_, ?_, ?_,
    hr.accuracy_mem⟩
  · rw [hfr.demand, hbaseline, htrend, hinFebruary, hfebruary]
    norm_num
  · rw [hfr.high, hmargin]
  · rw [hsr.demand, hbaseline, htrend, hinMarch, hmarch]
    norm_num
  · rw [hsr.high, hmargin]

end Forecast

end Restock
