import Restock.Proofs.Arithmetic.Statistics
import Restock.Statistics.FitError
import Restock.Statistics.Smoothing
import Restock.Statistics.Trend

/-!
# Statistics in other units

What the statistics of a series become when all its values are multiplied by one factor. Means,
slopes and smoothed series are multiplied by it too, the variance by its square, and a percentage
error stays what it is. Where a value decides between two cases, it is compared with zero or with
another value of the series, so a factor above zero never leads to another case.
-/

namespace Restock

namespace Scalar

variable {c : ℝ}

theorem mul_neg_iff_left (hc : 0 < c) (x : ℝ) : c * x < 0 ↔ x < 0 := smul_neg_iff_of_pos_left hc

theorem mul_nonpos_iff_left (hc : 0 < c) (x : ℝ) : c * x ≤ 0 ↔ x ≤ 0 := by
  rw [← not_lt, mul_pos_iff_of_pos_left hc, not_lt]

theorem beq_mul_left (hc : 0 < c) (x y : ℝ) : (c * x == c * y) = (x == y) := by
  show decide (c * x = c * y) = decide (x = y)
  simp [hc.ne']

theorem mul_beq_zero (hc : 0 < c) (x : ℝ) : (c * x == 0) = (x == 0) := by
  rw [← beq_mul_left hc x 0, mul_zero]

theorem sqrt_sq_mul (hc : 0 < c) (x : ℝ) : (Scalar.sqrt (c ^ 2 * x) : ℝ) = c * Scalar.sqrt x := by
  show Real.sqrt (c ^ 2 * x) = c * Real.sqrt x
  rw [Real.sqrt_mul (sq_nonneg c), Real.sqrt_sq hc.le]

theorem sum_map_mul (c : ℝ) (xs : List ℝ) : (xs.map (c * ·)).sum = c * xs.sum := by
  rw [List.sum_map_mul_left, List.map_id']

theorem mean_map_mul (c : ℝ) (xs : List ℝ) : mean (xs.map (c * ·)) = c * mean xs := by
  rw [mean_real, mean_real, sum_map_mul, List.length_map, mul_div_assoc]

end Scalar

namespace Statistics

open Scalar

/-! ## Spread and trend -/

theorem squaredDeviations_map_mul (c center : ℝ) (xs : List ℝ) :
    squaredDeviations (c * center) (xs.map (c * ·))
      = (squaredDeviations center xs).map (c ^ 2 * ·) := by
  simp only [squaredDeviations, List.map_map]
  apply List.map_congr_left
  intro x _
  show (c * x - c * center) * (c * x - c * center) = c ^ 2 * ((x - center) * (x - center))
  ring

theorem variance_map_mul (c : ℝ) (xs : List ℝ) :
    variance (xs.map (c * ·)) = c ^ 2 * variance xs := by
  simp only [variance, List.length_map, mean_map_mul, squaredDeviations_map_mul, blockSum_real,
    sum_map_mul]
  split
  · exact (mul_zero _).symm
  · exact mul_div_assoc _ _ _

theorem dot_map_mul (c : ℝ) (xs ys : List ℝ) : dot xs (ys.map (c * ·)) = c * dot xs ys := by
  -- the positions in `xs` are no quantities, and stay as they are
  have h : List.zipWith (· * ·) xs (ys.map (c * ·))
      = (List.zipWith (· * ·) xs ys).map (c * ·) := by
    rw [List.zipWith_map_right, List.map_zipWith]
    congr 1
    ext x y
    exact mul_left_comm x c y
  rw [dot, dot, h, sum_real, sum_real, sum_map_mul]

theorem slope_map_mul (c : ℝ) (ys : List ℝ) : slope (ys.map (c * ·)) = c * slope ys := by
  simp only [slope, List.length_map, dot_map_mul, blockSum_real, sum_map_mul]
  split
  · exact (mul_zero _).symm
  split
  · exact (mul_zero _).symm
  · ring

/-! ## Exponential smoothing -/

theorem smoothFrom_map_mul (c alpha previous : ℝ) (xs : List ℝ) :
    smoothFrom alpha (c * previous) (xs.map (c * ·))
      = (smoothFrom alpha previous xs).map (c * ·) := by
  induction xs generalizing previous with
  | nil => rfl
  | cons x xs ih =>
      have h : alpha * (c * x) + (1 - alpha) * (c * previous)
          = c * (alpha * x + (1 - alpha) * previous) := by ring
      simp only [List.map_cons, smoothFrom, h, ih]

theorem smooth_map_mul (c alpha : ℝ) (xs : List ℝ) :
    smooth alpha (xs.map (c * ·)) = (smooth alpha xs).map (c * ·) := by
  cases xs with
  | nil => rfl
  | cons x xs => simp only [List.map_cons, smooth, smoothFrom_map_mul]

/-! ## Trailing means -/

theorem hasMinus_mul (hc : 0 < c) (x : ℝ) : hasMinus (c * x) = hasMinus x := by
  simp only [hasMinus, one_div, inv_lt_zero, mul_neg_iff_left hc]

namespace Trailing

/-- The window of the same values in other units. -/
noncomputable def scale (c : ℝ) (w : Trailing ℝ) : Trailing ℝ :=
  { w with
    total := c * w.total
    addError := c * w.addError
    takeError := c * w.takeError
    last := w.last.map (c * ·) }

variable {c : ℝ}

theorem push_mul (total error x : ℝ) :
    Scalar.Running.push ⟨c * total, c * error⟩ (c * x)
      = ⟨c * (Scalar.Running.push ⟨total, error⟩ x).total,
          c * (Scalar.Running.push ⟨total, error⟩ x).error⟩ := by
  simp only [Scalar.Running.push, Scalar.Running.mk.injEq]
  constructor <;> ring

theorem add_scale (hc : 0 < c) (w : Trailing ℝ) (x : Option ℝ) :
    (w.scale c).add (x.map (c * ·)) = (w.add x).scale c := by
  cases x with
  | none => rfl
  | some x =>
      simp only [add, scale, Option.map_some, push_mul, hasMinus_mul hc]
      cases w.last with
      | none => rfl
      | some y => simp only [Option.map_some, beq_mul_left hc]

theorem take_scale (hc : 0 < c) (w : Trailing ℝ) (x : Option ℝ) :
    (w.scale c).take (x.map (c * ·)) = (w.take x).scale c := by
  cases x with
  | none => rfl
  | some x =>
      simp only [take, scale, Option.map_some, ← mul_neg, push_mul, hasMinus_mul hc]

theorem mean_scale (hc : 0 < c) (w : Trailing ℝ) : (w.scale c).mean = c * w.mean := by
  have hm : c * w.total / Scalar.ofNat w.count = c * (w.total / Scalar.ofNat w.count) :=
    mul_div_assoc _ _ _
  simp only [mean, scale, hm, mul_neg_iff_left hc, mul_pos_iff_of_pos_left hc]
  split
  · show (0 : ℝ) / 0 = c * (0 / 0)
    rw [zero_div, mul_zero]
  split
  · cases w.last with
    | none => rfl
    | some x => rfl
  split
  · exact (mul_zero c).symm
  split
  · exact (mul_zero c).symm
  · rfl

theorem means_scale (hc : 0 < c) (w : Trailing ℝ) (leaving entering : List (Option ℝ)) :
    (w.scale c).means (leaving.map (Option.map (c * ·))) (entering.map (Option.map (c * ·)))
      = (w.means leaving entering).map (c * ·) := by
  induction leaving generalizing w entering with
  | nil => rfl
  | cons out leaving ih =>
      cases entering with
      | nil => rfl
      | cons x entering =>
          simp only [List.map_cons, means, take_scale hc, add_scale hc, mean_scale hc, ih]

end Trailing

variable {c : ℝ}

theorem trailingMean_map_mul (hc : 0 < c) (xs : List ℝ) (window : Int) :
    trailingMean (xs.map (c * ·)) window = (trailingMean xs window).map (List.map (c * ·)) := by
  simp only [trailingMean, List.length_map]
  split
  · rfl
  split
  · rfl
  · -- no value is absent, and the empty window holds nothing to be multiplied
    have hempty : Trailing.scale c Trailing.empty = Trailing.empty := by
      simp [Trailing.scale, Trailing.empty]
    have h := Trailing.means_scale hc Trailing.empty
      (List.replicate window.toNat none ++ xs.map some) (xs.map some)
    rw [hempty] at h
    simpa [Except.map, Function.comp_def] using h

/-! ## The error of a fit -/

/-- The same error in other units. -/
noncomputable def FitError.scale (c : ℝ) (e : FitError ℝ) : FitError ℝ := ⟨c * e.rmse, e.mape⟩

theorem spread_map (f : ℝ → ℝ) (xs ys : List ℝ) :
    spread (xs.map f) (ys.map f) = (spread xs ys).map (List.map (Prod.map f f)) := by
  simp only [spread, List.length_map]
  split
  · simp [List.zip_map, Except.map]
  · rcases xs with _ | ⟨x, _ | ⟨x', xs⟩⟩ <;> rcases ys with _ | ⟨y, _ | ⟨y', ys⟩⟩ <;>
      simp [Except.map]

theorem rootMeanSquare_map_mul (hc : 0 < c) (pairs : List (ℝ × ℝ)) :
    rootMeanSquare (pairs.map (Prod.map (c * ·) (c * ·))) = c * rootMeanSquare pairs := by
  have h : (pairs.map (Prod.map (c * ·) (c * ·))).map (fun p => (p.1 - p.2) * (p.1 - p.2))
      = (pairs.map fun p => (p.1 - p.2) * (p.1 - p.2)).map (c ^ 2 * ·) := by
    rw [List.map_map, List.map_map]
    apply List.map_congr_left
    intro p _
    show (c * p.1 - c * p.2) * (c * p.1 - c * p.2) = c ^ 2 * ((p.1 - p.2) * (p.1 - p.2))
    ring
  show Scalar.sqrt (mean ((pairs.map (Prod.map (c * ·) (c * ·))).map
      fun p => (p.1 - p.2) * (p.1 - p.2))) = _
  rw [h, mean_map_mul, sqrt_sq_mul hc]
  rfl

theorem meanPercentage_map_mul (hc : 0 < c) (pairs : List (ℝ × ℝ)) :
    meanPercentage (pairs.map (Prod.map (c * ·) (c * ·))) = meanPercentage pairs := by
  simp only [meanPercentage, List.map_map]
  congr 2
  apply List.map_congr_left
  intro p _
  show Scalar.abs ((c * p.1 - c * p.2) / (c * p.1)) = Scalar.abs ((p.1 - p.2) / p.1)
  rw [← mul_sub, mul_div_mul_left _ _ hc.ne']

theorem fitError_map_mul (hc : 0 < c) (actual predicted : List ℝ) :
    fitError (actual.map (c * ·)) (predicted.map (c * ·))
      = (fitError actual predicted).map (Option.map (FitError.scale c)) := by
  -- which values have a percentage, and whether any has, is the same in all units
  have hselect : (fun pair : ℝ × ℝ => !(pair.1 == 0)) ∘ Prod.map (c * ·) (c * ·)
      = fun pair => !(pair.1 == 0) := by
    ext pair
    simp only [Function.comp_apply, Prod.map_fst, mul_beq_zero hc]
  have hany : (fun x : ℝ => !(x == 0)) ∘ (c * ·) = fun x => !(x == 0) := by
    ext x
    simp only [Function.comp_apply, mul_beq_zero hc]
  simp only [fitError, List.isEmpty_map, spread_map, List.any_map, hany, List.length_map,
    List.zip_map, List.filter_map, hselect, meanPercentage_map_mul hc]
  split
  · rfl
  · cases spread actual predicted with
    | error e => rfl
    | ok pairs =>
        simp only [Except.map, Planned.ok_bind, rootMeanSquare_map_mul hc]
        split
        · split
          · rfl
          · rfl
        · rfl

end Statistics

end Restock
