import Restock.Proofs.Arithmetic.TrailingMeans
import Restock.Proofs.Demand.Gaps
import Restock.Proofs.Forecast.Horizon

/-!
# When there is a forecast

In exact arithmetic a forecast fails for reasons that can be read off its inputs: nothing was observed,
the horizon or a moving window has no day, or a day that is needed lies outside the calendar
(`Forecast.exists_ofHistory_iff`). Neither filling gaps nor scoring the fit adds to them, as the filled
series has at least the observed days and a fit has a value for each value that it fits.
-/

namespace Restock

open Observation

/-! ## The parts -/

/-- Some series is analysed, and not an empty one, exactly when there are observations. -/
theorem exists_densify_ne_nil_iff {history : List (Observation ℝ)} (filled : Bool)
    (window : Option Window) :
    (∃ series, densify history filled window = .ok series ∧ series ≠ []) ↔ history ≠ [] := by
  cases filled with
  | false => simp [densify]
  | true =>
      constructor
      · rintro ⟨series, hs, hne⟩ rfl
        exact hne (Except.ok.inj hs).symm
      · intro hne
        obtain ⟨o, ho⟩ := List.exists_mem_of_ne_nil history hne
        obtain ⟨series, hs, hsums⟩ := exists_densify hne window
        exact ⟨series, hs, hsums.ne_nil (spanned_observed window ho)⟩

namespace ForecastPolicy

variable {policy : ForecastPolicy ℝ} {xs ys : List ℝ}

/-- The fitted series: smoothed, or the means of a window that slides over it. -/
noncomputable def fitted (policy : ForecastPolicy ℝ) (xs : List ℝ) : List ℝ :=
  match policy.baselineMethod with
  | .exponentialSmoothing => Statistics.smooth policy.smoothingAlpha xs
  | .movingAverage =>
    if xs.length < policy.movingAverageWindow then xs
    else Statistics.slidingMeans policy.movingAverageWindow.toNat [] xs

/-- A series is fitted unless its means are to be taken over no place. -/
theorem fit_eq_ok_iff : policy.fit xs = .ok ys ↔
    (policy.baselineMethod = .movingAverage → 1 ≤ policy.movingAverageWindow)
      ∧ ys = policy.fitted xs := by
  unfold fit fitted
  cases policy.baselineMethod with
  | exponentialSmoothing => simp [eq_comm]
  | movingAverage => simp [Statistics.trailingMean_eq_ok_iff]

theorem exists_fit_iff : (∃ ys, policy.fit xs = .ok ys) ↔
    (policy.baselineMethod = .movingAverage → 1 ≤ policy.movingAverageWindow) := by
  simp [fit_eq_ok_iff]

@[simp] theorem length_fitted (policy : ForecastPolicy ℝ) (xs : List ℝ) :
    (policy.fitted xs).length = xs.length := by
  unfold fitted
  cases policy.baselineMethod with
  | exponentialSmoothing => exact Statistics.length_smooth _ xs
  | movingAverage =>
      simp only
      split
      · rfl
      · exact Statistics.length_slidingMeans _ _ xs

/-- A fit has a value for each value that it fits. -/
theorem length_fit (h : policy.fit xs = .ok ys) : ys.length = xs.length := by
  rw [(fit_eq_ok_iff.1 h).2, length_fitted]

end ForecastPolicy

/-- As many predictions as actual values can be scored. -/
theorem Statistics.exists_fitError {α : Type} [Scalar α] {actual predicted : List α}
    (h : actual.length = predicted.length) : ∃ fit, fitError actual predicted = .ok fit := by
  have hspread : spread actual predicted = .ok (actual.zip predicted) := if_pos h
  unfold fitError
  rw [hspread]
  split
  · exact ⟨_, rfl⟩
  · simp only [Planned.ok_bind]
    split
    · exact ⟨_, rfl⟩
    · exact ⟨_, rfl⟩

/-! ## The whole -/

namespace Forecast

/-- What forecasting asks of its inputs. -/
structure Feasible (policy : ForecastPolicy ℝ) (today : Day) (history : List (Observation ℝ))
    (horizon : Int) (historyDays : Option Int) : Prop where
  observed : history ≠ []
  oneDay : 1 ≤ horizon
  onePlace : policy.baselineMethod = .movingAverage → 1 ≤ policy.movingAverageWindow
  /-- The calendar reaches as far as the last day ahead. -/
  ahead : ∃ last, today.shift? horizon = some last
  /-- It reaches as far back as the history was fetched. -/
  back : ∀ d, historyDays = some d → d ≠ 0 → ∃ window, lookback? today d = some window

variable {policy : ForecastPolicy ℝ} {history : List (Observation ℝ)} {horizon : Int}
  {historyDays : Option Int}

theorem Basis.exists_holds_iff {today : Day} :
    (∃ b : Basis ℝ, b.Holds policy today history horizon historyDays)
      ↔ Feasible policy today history horizon historyDays := by
  have hahead (hone : 1 ≤ horizon) : (∃ days, daysAhead? today horizon.toNat = some days)
      ↔ ∃ last, today.shift? horizon = some last := by
    simp only [daysAhead?_eq_some_iff, exists_and_left, exists_eq, and_true,
      Int.toNat_of_nonneg (Int.le_trans (by decide) hone)]
  constructor
  · rintro ⟨b, hb⟩
    obtain ⟨window, hw, hs⟩ := Planned.bind_eq_ok.1 hb.analysed
    exact ⟨(exists_densify_ne_nil_iff _ _).1 ⟨_, hs, hb.nonempty⟩, hb.oneDay,
      ForecastPolicy.exists_fit_iff.1 ⟨_, hb.fitted⟩, (hahead hb.oneDay).1 ⟨_, hb.ahead⟩,
      (exists_quietWindow_iff.1 ⟨window, hw⟩).2⟩
  · intro h
    obtain ⟨window, hw⟩ := exists_quietWindow_iff.2 ⟨h.oneDay, h.back⟩
    obtain ⟨series, hs, hne⟩ := (exists_densify_ne_nil_iff policy.fillGaps window).2 h.observed
    obtain ⟨fitted, hf⟩ : ∃ fitted, policy.fit (quantities series) = .ok fitted :=
      ForecastPolicy.exists_fit_iff.2 h.onePlace
    obtain ⟨ahead, ha⟩ := (hahead h.oneDay).2 h.ahead
    obtain ⟨fit, he⟩ : ∃ fit, Statistics.fitError ((quantities series).drop 1) fitted.dropLast
        = .ok fit := by
      refine Statistics.exists_fitError ?_
      rw [List.length_drop, List.length_dropLast, policy.length_fit hf]
    exact ⟨⟨series, fitted, ahead, fit⟩, h.oneDay, Planned.bind_eq_ok.2 ⟨window, hw, hs⟩, hne, hf,
      ha, he⟩

/-- **There is a forecast** exactly when there are observations, the horizon and the moving window have
a day, and the calendar has the days that are asked for. A planner has no part in it. -/
theorem exists_ofHistory_iff {now : Instant} {product location : String}
    {p : Option (Parameters ℝ)} :
    (∃ f, ofHistory policy now history horizon product location p historyDays = .ok f)
      ↔ Feasible policy now.day history horizon historyDays := by
  rw [← Basis.exists_holds_iff]
  simp only [ofHistory_eq_ok_iff]
  constructor
  · rintro ⟨_, b, hb, rfl⟩
    exact ⟨b, hb⟩
  · rintro ⟨b, hb⟩
    exact ⟨_, b, hb, rfl⟩

theorem feasible_boltSale :
    Feasible ({} : ForecastPolicy ℝ) boltDepot.now.day [boltSale] 2 none where
  observed := List.cons_ne_nil _ _
  oneDay := by decide
  onePlace _ := by decide
  ahead := ⟨january 11, rfl⟩
  back _ h := by cases h

end Forecast

end Restock
