import Restock.Proofs.Arithmetic.Exact
import Restock.Statistics.Dispersion

/-!
# Statistics in exact arithmetic
-/

namespace Restock.Statistics

/-- **Sums by groups**: over a list of keys that has the key of each member once, the sums of the groups
add up to the sum of all. -/
theorem sum_sum_filter {ι κ : Type} [DecidableEq κ] {keys : List κ} (hn : keys.Nodup) (key : ι → κ)
    (value : ι → ℝ) {xs : List ι} (hk : ∀ x ∈ xs, key x ∈ keys) :
    (keys.map fun k => ((xs.filter fun x => key x = k).map value).sum).sum = (xs.map value).sum := by
  induction xs with
  | nil => simp
  | cons x xs ih =>
      have hgroup (k : κ) : (((x :: xs).filter fun y => key y = k).map value).sum
          = (if k = key x then value x else 0) + ((xs.filter fun y => key y = k).map value).sum := by
        by_cases h : key x = k
        · simp [h]
        · simp [h, Ne.symm h]
      -- of all the groups only that of `x` gains from it, and its key is listed once
      have hx : (keys.map fun k => if k = key x then value x else 0).sum = value x := by
        rw [List.sum_map_ite_eq keys (fun _ => value x) (fun _ => 0) (key x),
          List.count_eq_one_of_mem hn (hk x List.mem_cons_self)]
        simp
      simp only [hgroup]
      rw [List.sum_map_add, hx, ih fun y hy => hk y (List.mem_cons_of_mem x hy), List.map_cons,
        List.sum_cons]

theorem variance_real (xs : List ℝ) :
    variance xs = if xs.length < 2 then 0
      else (squaredDeviations (xs.sum / xs.length) xs).sum / (xs.length - 1 : Nat) := by
  simp only [variance, Scalar.blockSum_real, Scalar.mean_real, Scalar.ofNat_real]

theorem nonneg_of_mem_squaredDeviations {center d : ℝ} {xs : List ℝ}
    (h : d ∈ squaredDeviations center xs) : 0 ≤ d := by
  obtain ⟨x, _, rfl⟩ := List.mem_map.1 h
  exact mul_self_nonneg _

theorem variance_nonneg (xs : List ℝ) : 0 ≤ variance xs := by
  rw [variance_real]
  split
  · exact le_refl 0
  · exact div_nonneg (List.sum_nonneg fun _ => nonneg_of_mem_squaredDeviations) (Nat.cast_nonneg _)

theorem variance_perm {xs ys : List ℝ} (h : xs.Perm ys) : variance xs = variance ys := by
  have hdeviations (center : ℝ) :
      (squaredDeviations center xs).sum = (squaredDeviations center ys).sum :=
    (h.map _).sum_eq
  rw [variance_real, variance_real, h.sum_eq, h.length_eq, hdeviations]

end Restock.Statistics
