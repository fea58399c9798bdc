import Restock.Proofs.Arithmetic.Statistics
import Restock.Proofs.Arithmetic.TrailingMeans
import Restock.Statistics.FitError
import Restock.Statistics.Trend

/-!
# Statistics of a constant series

One value over and over has that value for its mean, no spread and no slope, and every smoothing leaves
it as it is. A series that is its own prediction is missed by nothing (`fitError_self`).
-/

namespace Restock.Statistics

open Scalar

variable (n : Nat) (v : ℝ)

theorem sum_replicate_real : (List.replicate n v).sum = n * v := by
  rw [List.sum_replicate, nsmul_eq_mul]

theorem mean_replicate {n : Nat} (hn : n ≠ 0) : mean (List.replicate n v) = v := by
  rw [mean_real, sum_replicate_real, List.length_replicate,
    mul_div_cancel_left₀ v (Nat.cast_ne_zero.2 hn)]

theorem variance_replicate : variance (List.replicate n v) = 0 := by
  rw [variance_real, List.length_replicate, sum_replicate_real]
  split
  · rfl
  · next hn =>
    have hne : (n : ℝ) ≠ 0 := by
      rw [Nat.cast_ne_zero]
      omega
    rw [mul_div_cancel_left₀ v hne, squaredDeviations, List.map_replicate, sum_replicate_real,
      sub_self, mul_zero, mul_zero, zero_div]

theorem dot_replicate (xs : List ℝ) : dot xs (List.replicate xs.length v) = xs.sum * v := by
  have h : List.zipWith (· * ·) xs (List.replicate xs.length v) = xs.map (· * v) := by
    induction xs with
    | nil => rfl
    | cons x xs ih =>
        rw [List.length_cons, List.replicate_succ, List.zipWith_cons_cons, ih, List.map_cons]
  rw [dot, h, sum_real, List.sum_map_mul_right, List.map_id']

theorem slope_replicate : slope (List.replicate n v) = 0 := by
  have hdot : dot (positions n) (List.replicate n v) = (positions n).sum * v := by
    have h := dot_replicate v (positions n)
    rwa [length_positions] at h
  simp only [slope, List.length_replicate, hdot, blockSum_real, sum_replicate_real, ofNat_real]
  split
  · rfl
  split
  · rfl
  · -- the numerator vanishes
    rw [mul_left_comm, sub_self, zero_div]

theorem smoothFrom_replicate (alpha : ℝ) :
    smoothFrom alpha v (List.replicate n v) = List.replicate n v := by
  have h : alpha * v + (1 - alpha) * v = v := by ring
  induction n with
  | zero => rfl
  | succ n ih => rw [List.replicate_succ, smoothFrom, h, ih]

theorem smooth_replicate (alpha : ℝ) :
    smooth alpha (List.replicate n v) = List.replicate n v := by
  cases n with
  | zero => rfl
  | succ n => rw [List.replicate_succ, smooth, smoothFrom_replicate]

theorem slidingMeans_replicate {size : Nat} (hsize : 1 ≤ size) (held : Nat) :
    slidingMeans size (List.replicate held v) (List.replicate n v) = List.replicate n v := by
  induction n generalizing held with
  | zero => rfl
  | succ n ih =>
      have hheld : (List.replicate held v ++ [v]).rtake size
          = List.replicate (held + 1 - (held + 1 - size)) v := by
        rw [← List.replicate_succ', List.rtake, List.drop_replicate, List.length_replicate]
      have hne : held + 1 - (held + 1 - size) ≠ 0 := by omega
      rw [List.replicate_succ, slidingMeans, hheld, mean_replicate v hne, ih]

theorem trailingMean_replicate {window : Int} (hwindow : 1 ≤ window) :
    trailingMean (List.replicate n v) window = .ok (List.replicate n v) := by
  have hsize : 1 ≤ window.toNat := by omega
  have hmeans := slidingMeans_replicate n v hsize 0
  refine trailingMean_eq_ok_iff.2 ⟨hwindow, ?_⟩
  split
  · rfl
  · exact hmeans.symm

/-- **A perfect fit** has no error, nor a percentage of error where some value has one. -/
theorem fitError_self (xs : List ℝ) :
    fitError xs xs = .ok (if xs.isEmpty then none
      else some ⟨0, if xs.any fun x => !(x == 0) then some 0 else none⟩) := by
  have hzip : xs.zip xs = xs.map fun x => (x, x) := by
    rw [List.zip_eq_zipWith, List.zipWith_self]
  have hsquare : rootMeanSquare (xs.zip xs) = 0 := by
    have h : (xs.map fun x => (x - x) * (x - x)).sum = 0 := by simp
    rw [hzip, rootMeanSquare, List.map_map, mean_real]
    show √((xs.map fun x => (x - x) * (x - x)).sum / _) = 0
    rw [h, zero_div, Real.sqrt_zero]
  have hpercentage : meanPercentage ((xs.zip xs).filter fun pair => !(pair.1 == 0)) = 0 := by
    have h (ys : List ℝ) : (ys.map fun x => Scalar.abs ((x - x) / x)).sum = 0 := by
      simp [abs_real]
    rw [hzip, List.filter_map, meanPercentage, List.map_map, mean_real]
    show ((xs.filter _).map fun x => Scalar.abs ((x - x) / x)).sum / _ * _ = 0
    rw [h, zero_div, zero_mul]
  unfold fitError
  split
  · rfl
  · have hspread : spread xs xs = .ok (xs.zip xs) := if_pos rfl
    rw [hspread, Planned.ok_bind, hsquare]
    simp only [if_true, hpercentage]
    split <;> rfl

end Restock.Statistics
