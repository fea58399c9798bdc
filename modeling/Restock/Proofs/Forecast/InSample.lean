import Restock.Proofs.Arithmetic.Smoothing
import Restock.Proofs.Forecast.Recomputed

/-!
# Fits of a series

A fit has a value at each place of the series, made of the values up to that place (`take_fitted`) and
between the least and the greatest of them (`within_fitted`). So it looks at nothing that it is scored
against, and the baseline of a forecast, its last value, stays in the range of what was observed. Main
statement: `ForecastPolicy.fit_inSample`.
-/

namespace Restock

open Observation Statistics

namespace ForecastPolicy

variable {policy : ForecastPolicy ℝ} {xs ys : List ℝ}

/-- **A fit looks at no later value**: series of one length that begin alike have fits that begin
alike. -/
theorem take_fitted (policy : ForecastPolicy ℝ) {xs' : List ℝ} (hlength : xs'.length = xs.length)
    {n : Nat} (h : xs'.take n = xs.take n) :
    (policy.fitted xs').take n = (policy.fitted xs).take n := by
  unfold fitted
  cases policy.baselineMethod with
  | exponentialSmoothing =>
      simp only
      rw [take_smooth, take_smooth, h]
  | movingAverage =>
      -- whether a series is too short for the window is a matter of its length
      simp only [hlength]
      split
      · exact h
      · rw [take_slidingMeans, take_slidingMeans, h]

/-- **A fitted value** lies within the values up to its place. -/
theorem within_fitted (halpha : policy.smoothingAlpha ∈ Set.Icc 0 1)
    (hwindow : 1 ≤ policy.movingAverageWindow) {i : Nat} {y : ℝ}
    (hy : (policy.fitted xs)[i]? = some y) : Within (xs.take (i + 1)) y := by
  unfold fitted at hy
  cases hm : policy.baselineMethod with
  | exponentialSmoothing =>
      rw [hm] at hy
      exact within_smooth halpha hy
  | movingAverage =>
      rw [hm] at hy
      simp only at hy
      split at hy
      · exact within_of_mem (mem_take_succ hy)
      · exact within_slidingMeans (by omega) hy

/-- Means are taken over the last values that the window has room for. -/
theorem exists_mean_of_fitted (hm : policy.baselineMethod = .movingAverage)
    (hlong : policy.movingAverageWindow ≤ xs.length) (hwindow : 1 ≤ policy.movingAverageWindow)
    {i : Nat} {y : ℝ} (hy : (policy.fitted xs)[i]? = some y) :
    ∃ last, last <:+ xs.take (i + 1)
      ∧ (last.length : Int) = min ((i : Int) + 1) policy.movingAverageWindow
      ∧ y = Scalar.mean last := by
  have hi : i < xs.length := by
    have hi := (List.getElem?_eq_some_iff.1 hy).1
    rwa [length_fitted] at hi
  rw [fitted, hm] at hy
  simp only [if_neg (not_lt.2 hlong)] at hy
  refine ⟨(xs.take (i + 1)).rtake policy.movingAverageWindow.toNat, List.drop_suffix _ _, ?_,
    eq_mean_of_slidingMeans hy⟩
  rw [length_rtake, List.length_take]
  omega

/-- What the fit of a series holds. -/
structure InSample (policy : ForecastPolicy ℝ) (xs ys : List ℝ) : Prop where
  length : ys.length = xs.length
  within : ∀ i y, ys[i]? = some y → Within (xs.take (i + 1)) y
  /-- A series of the same length with the same values up to a place has the same fit up to it. -/
  causal : ∀ xs' ys' i, xs'.length = xs.length → xs'.take (i + 1) = xs.take (i + 1) →
    policy.fit xs' = .ok ys' → ys'.take (i + 1) = ys.take (i + 1)
  /-- What is scored against the value at a place is the same for all series of the same length with the
  same values before it. -/
  scored : ∀ i x y, ((xs.drop 1).zip ys.dropLast)[i]? = some (x, y) → xs[i + 1]? = some x
    ∧ ∀ xs' ys', xs'.length = xs.length → xs'.take (i + 1) = xs.take (i + 1) →
      policy.fit xs' = .ok ys' → ys'.dropLast[i]? = some y
  /-- Smoothing starts from the first value and blends each later one with what is fitted before it. -/
  smoothed : policy.baselineMethod = .exponentialSmoothing → ys[0]? = xs[0]?
    ∧ ∀ i x y, xs[i + 1]? = some x → ys[i]? = some y →
      ys[i + 1]? = some (policy.smoothingAlpha * x + (1 - policy.smoothingAlpha) * y)
  /-- A series that is shorter than the moving window is its own fit. -/
  short : policy.baselineMethod = .movingAverage → xs.length < policy.movingAverageWindow → ys = xs
  /-- A moving average is the mean of the last values, as many as there are and the window holds. -/
  averaged : policy.baselineMethod = .movingAverage → policy.movingAverageWindow ≤ xs.length →
    ∀ i y, ys[i]? = some y → ∃ last, last <:+ xs.take (i + 1)
      ∧ (last.length : Int) = min ((i : Int) + 1) policy.movingAverageWindow
      ∧ y = Scalar.mean last

theorem getElem?_eq_of_take_eq {zs : List ℝ} {i : Nat} (h : ys.take (i + 1) = zs.take (i + 1)) :
    ys[i]? = zs[i]? := by
  rw [← List.getElem?_take_of_lt (Nat.lt_succ_self i), h,
    List.getElem?_take_of_lt (Nat.lt_succ_self i)]

theorem inSample_fitted (halpha : policy.smoothingAlpha ∈ Set.Icc 0 1)
    (hwindow : 1 ≤ policy.movingAverageWindow) (xs : List ℝ) :
    policy.InSample xs (policy.fitted xs) where
  length := policy.length_fitted xs
  within _ _ hy := within_fitted halpha hwindow hy
  causal _ _ _ hlength htake hfit := by
    rw [(fit_eq_ok_iff.1 hfit).2]
    exact policy.take_fitted hlength htake
  scored i x y hpair := by
    obtain ⟨hx, hy⟩ := List.getElem?_zip_eq_some.1 hpair
    rw [List.getElem?_drop, Nat.add_comm] at hx
    refine ⟨hx, fun xs' ys' hlength htake hfit => ?_⟩
    rw [(fit_eq_ok_iff.1 hfit).2]
    have hdrop (zs : List ℝ) (hzs : zs.length = xs.length) : zs.dropLast[i]? = zs[i]? := by
      have hi := (List.getElem?_eq_some_iff.1 hx).1
      rw [List.getElem?_dropLast, if_pos (by omega)]
    rw [hdrop _ (policy.length_fitted xs)] at hy
    rw [hdrop _ ((policy.length_fitted xs').trans hlength), ← hy]
    exact getElem?_eq_of_take_eq (policy.take_fitted hlength htake)
  smoothed hm := by
    rw [fitted, hm]
    exact ⟨getElem?_smooth_zero _ _, fun _ _ _ hx hy => getElem?_smooth_succ hx hy⟩
  short hm hshort := by
    rw [fitted, hm]
    exact if_pos hshort
  averaged hm hlong _ _ hy := exists_mean_of_fitted hm hlong hwindow hy

/-- **The baseline of a forecast** lies within the series that it is made from. -/
theorem within_baseline (halpha : policy.smoothingAlpha ∈ Set.Icc 0 1)
    (hwindow : 1 ≤ policy.movingAverageWindow) {b : Forecast.Basis ℝ} {today : Day}
    {history : List (Observation ℝ)} {horizon : Int} {historyDays : Option Int}
    (hb : b.Holds policy today history horizon historyDays) :
    Within (quantities b.series) b.baseline := by
  have hlast := hb.getLast?_fitted
  rw [(fit_eq_ok_iff.1 hb.fitted).2, List.getLast?_eq_getElem?] at hlast
  exact (within_fitted halpha hwindow hlast).mono (List.take_subset _ _)

/-- **A fit is aligned, bounded and causal.** It has a value for each value of the series, blended or
averaged from the values so far, so between the least and the greatest of them and without a look at later
ones; what is scored against a value is made of earlier ones, and a forecast starts from within the range
of its series. -/
theorem fit_inSample (halpha : policy.smoothingAlpha ∈ Set.Icc 0 1)
    (hwindow : 1 ≤ policy.movingAverageWindow) :
    (∀ xs, ∃ ys, policy.fit xs = .ok ys ∧ policy.InSample xs ys)
    ∧ ∀ (now : Instant) (history : List (Observation ℝ)) (horizon : Int) (product location : String)
        (p : Option (Parameters ℝ)) (historyDays : Option Int) (f : Forecast ℝ),
      Forecast.ofHistory policy now history horizon product location p historyDays = .ok f →
      ∃ b : Forecast.Basis ℝ, b.Holds policy now.day history horizon historyDays
        ∧ f.days = f.dayByDay policy.confidenceZ b.baseline b.ahead
        ∧ Within (quantities b.series) b.baseline := by
  refine ⟨fun xs => ⟨policy.fitted xs, ?_, inSample_fitted halpha hwindow xs⟩, ?_⟩
  · exact fit_eq_ok_iff.2 ⟨fun _ => hwindow, rfl⟩
  · intro now history horizon product location p historyDays f h
    obtain ⟨b, hb, rfl⟩ := Forecast.ofHistory_eq_ok_iff.1 h
    exact ⟨b, hb, b.days_forecast policy now product location p, within_baseline halpha hwindow hb⟩

/-- Means of two days. -/
noncomputable def twoDayMeans : ForecastPolicy ℝ :=
  { baselineMethod := .movingAverage, movingAverageWindow := 2 }

/-- Demand of one, three and five is fitted on the second day by two, the mean of the first days, and no
other demand on the third day would change that. -/
theorem fit_inSample_rise :
    ∃ ys, twoDayMeans.fit [1, 3, 5] = .ok ys ∧ ys.length = 3
      ∧ (∀ y, ys[1]? = some y → Within [1, 3] y ∧ y = 2)
      ∧ ∀ z ys', twoDayMeans.fit [1, 3, z] = .ok ys' → ys'.take 2 = ys.take 2 := by
  have halpha : twoDayMeans.smoothingAlpha ∈ Set.Icc (0 : ℝ) 1 := by
    show (Scalar.fraction 3 1 : ℝ) ∈ Set.Icc (0 : ℝ) 1
    rw [Scalar.fraction_real]
    norm_num
  have hwindow : 1 ≤ twoDayMeans.movingAverageWindow := by decide
  obtain ⟨ys, hys, hfit⟩ := (fit_inSample halpha hwindow).1 [1, 3, 5]
  refine ⟨ys, hys, hfit.length, fun y hy => ⟨hfit.within 1 y hy, ?_⟩, fun z ys' hys' => ?_⟩
  · obtain ⟨last, hlast, hlength, rfl⟩ := hfit.averaged rfl (by decide) 1 y hy
    have htwo : (last.length : Int) = 2 := hlength
    have hwhole : last = [1, 3] := by
      refine hlast.eq_of_length ?_
      show last.length = 2
      exact_mod_cast htwo
    rw [hwhole, Scalar.mean_real]
    norm_num
  · exact hfit.causal [1, 3, z] ys' 1 rfl rfl hys'

end ForecastPolicy

end Restock
