import Mathlib.Algebra.BigOperators.Fin
import Restock.Proofs.Arithmetic.Constant

/-!
# Variance by pairs

The variance of a list is an average over all pairs of its values: no mean is needed to say what it is
(`variance_eq_div`). From the pairs it is read off what does not change the variance, as the order of the
values and a constant added to them. What an additional value does to it is read off the squared distances
from the mean, as those from any other center are no smaller (`sum_squaredDeviations_eq_add`).
-/

namespace Restock.Statistics

open Scalar

variable {xs : List ℝ}

/-! ## Distances from a center -/

theorem sum_squaredDeviations (center : ℝ) (xs : List ℝ) :
    (squaredDeviations center xs).sum
      = (xs.map (· ^ 2)).sum - 2 * center * xs.sum + xs.length * center ^ 2 := by
  induction xs with
  | nil => simp [squaredDeviations]
  | cons x xs ih =>
      rw [squaredDeviations] at ih ⊢
      rw [List.map_cons, List.sum_cons, ih, List.map_cons, List.sum_cons, List.sum_cons,
        List.length_cons, Nat.cast_succ]
      ring

/-- Distances from a center are distances from the mean, and the distance of the two. -/
theorem sum_squaredDeviations_eq_add (center : ℝ) (xs : List ℝ) :
    (squaredDeviations center xs).sum
      = (squaredDeviations (mean xs) xs).sum + xs.length * (center - mean xs) ^ 2 := by
  have hmean := length_mul_mean xs
  rw [sum_squaredDeviations, sum_squaredDeviations]
  linear_combination 2 * (center - mean xs) * hmean

theorem sum_squaredDeviations_eq_zero_iff {center : ℝ} :
    (squaredDeviations center xs).sum = 0 ↔ ∀ x ∈ xs, x = center := by
  constructor
  · intro h x hx
    have hzero := List.all_zero_of_le_zero_le_of_sum_eq_zero
      (fun _ => nonneg_of_mem_squaredDeviations) h (List.mem_map_of_mem hx)
    exact sub_eq_zero.1 (mul_self_eq_zero.1 hzero)
  · intro h
    refine List.sum_eq_zero fun d hd => ?_
    obtain ⟨x, hx, rfl⟩ := List.mem_map.1 hd
    rw [h x hx, sub_self, mul_zero]

/-- A population deviates by nothing where all of it is at the mean. -/
theorem populationDeviation_eq_zero_iff : populationDeviation xs = 0 ↔ ∀ x ∈ xs, x = mean xs := by
  have hsum : 0 ≤ (squaredDeviations (mean xs) xs).sum :=
    List.sum_nonneg fun _ => nonneg_of_mem_squaredDeviations
  have hdeviation : populationDeviation xs
      = √((squaredDeviations (mean xs) xs).sum / xs.length) := by
    rw [populationDeviation, blockSum_real, ofNat_real]
    rfl
  rw [hdeviation, Real.sqrt_eq_zero (div_nonneg hsum (Nat.cast_nonneg _)), div_eq_zero_iff,
    sum_squaredDeviations_eq_zero_iff, Nat.cast_eq_zero, List.length_eq_zero_iff]
  refine or_iff_left_of_imp ?_
  rintro rfl x hx
  cases hx

theorem pred_length_mul_variance (xs : List ℝ) :
    (xs.length - 1) * variance xs = (squaredDeviations (mean xs) xs).sum := by
  match xs with
  | [] => simp [variance, squaredDeviations]
  | [x] => simp [variance, squaredDeviations]
  | x :: y :: xs =>
    have hn : ¬ (x :: y :: xs).length < 2 := by simp
    have hpred : (((x :: y :: xs).length - 1 : Nat) : ℝ) = (x :: y :: xs).length - 1 := by
      rw [Nat.cast_sub (by simp), Nat.cast_one]
    have hne : (((x :: y :: xs).length - 1 : Nat) : ℝ) ≠ 0 := Nat.cast_ne_zero.2 (by simp)
    rw [variance_real, if_neg hn, ← mean_real, ← hpred, mul_div_cancel₀ _ hne]

/-! ## Pairs of values -/

/-- The squared differences of the values at any two places, the one before the other, added up. -/
noncomputable def squaredDifferences (xs : List ℝ) : ℝ :=
  ∑ i : Fin xs.length, ∑ j ∈ Finset.Ioi i, (xs[i] - xs[j]) ^ 2

/-- The first value forms a pair with each of the others. -/
theorem squaredDifferences_cons (x : ℝ) (xs : List ℝ) :
    squaredDifferences (x :: xs) = (xs.map fun y => (x - y) ^ 2).sum + squaredDifferences xs := by
  simp only [squaredDifferences, List.length_cons, Fin.sum_univ_succ, Fin.sum_Ioi_zero,
    Fin.sum_Ioi_succ]
  rw [← Fin.sum_univ_fun_getElem]
  rfl

theorem squaredDifferences_eq (xs : List ℝ) :
    squaredDifferences xs = xs.length * (xs.map (· ^ 2)).sum - xs.sum ^ 2 := by
  induction xs with
  | nil => simp [squaredDifferences]
  | cons x xs ih =>
      have hfirst : (xs.map fun y => (x - y) ^ 2).sum = (squaredDeviations x xs).sum := by
        congr 1
        refine List.map_congr_left fun y _ => ?_
        ring
      rw [squaredDifferences_cons, hfirst, sum_squaredDeviations, ih, List.map_cons, List.sum_cons,
        List.sum_cons, List.length_cons, Nat.cast_succ]
      ring

/-- **Variance by pairs.** -/
theorem length_mul_variance (xs : List ℝ) :
    xs.length * (xs.length - 1) * variance xs = squaredDifferences xs := by
  have hmean := length_mul_mean xs
  rw [mul_assoc, pred_length_mul_variance, sum_squaredDeviations, squaredDifferences_eq]
  linear_combination (xs.length * mean xs - xs.sum) * hmean

theorem variance_eq_div (xs : List ℝ) :
    variance xs = squaredDifferences xs / (xs.length * (xs.length - 1)) := by
  by_cases hn : xs.length < 2
  · have hpairs : (xs.length : ℝ) * (xs.length - 1) = 0 := by
      have : xs.length = 0 ∨ xs.length = 1 := by omega
      rcases this with h | h <;> simp [h]
    rw [variance_real, if_pos hn, hpairs, div_zero]
  · have hn : (2 : ℝ) ≤ xs.length := by exact_mod_cast not_lt.1 hn
    have hpairs : (xs.length : ℝ) * (xs.length - 1) ≠ 0 := by nlinarith
    rw [← length_mul_variance, mul_div_cancel_left₀ _ hpairs]

/-! ## What the variance depends on -/

theorem squaredDifferences_map_add (c : ℝ) (xs : List ℝ) :
    squaredDifferences (xs.map (· + c)) = squaredDifferences xs := by
  induction xs with
  | nil => rfl
  | cons x xs ih =>
      rw [List.map_cons, squaredDifferences_cons, squaredDifferences_cons, ih, List.map_map]
      simp only [Function.comp_def, add_sub_add_right_eq_sub]

/-- A constant added to all values leaves all differences as they are. -/
theorem variance_map_add (c : ℝ) (xs : List ℝ) : variance (xs.map (· + c)) = variance xs := by
  rw [variance_eq_div, variance_eq_div, squaredDifferences_map_add, List.length_map]

theorem variance_eq_zero_iff : variance xs = 0 ↔ ∀ x ∈ xs, ∀ y ∈ xs, x = y := by
  constructor
  · intro h
    have hzero : (squaredDeviations (mean xs) xs).sum = 0 := by
      rw [← pred_length_mul_variance, h, mul_zero]
    have hmean := sum_squaredDeviations_eq_zero_iff.1 hzero
    exact fun x hx y hy => (hmean x hx).trans (hmean y hy).symm
  · intro h
    cases xs with
    | nil => rfl
    | cons x xs =>
        rw [List.eq_replicate_of_mem fun y hy => h y hy x List.mem_cons_self]
        exact variance_replicate _ _

/-- Another value adds to the squared distances from the new mean, and those of the others were no larger
from the old one. -/
theorem pred_length_mul_variance_le (xs : List ℝ) (x : ℝ) :
    (xs.length - 1) * variance xs ≤ ((xs ++ [x]).length - 1) * variance (xs ++ [x]) := by
  rw [pred_length_mul_variance, pred_length_mul_variance]
  generalize mean (xs ++ [x]) = center
  calc (squaredDeviations (mean xs) xs).sum
      ≤ (squaredDeviations center xs).sum := by
        rw [sum_squaredDeviations_eq_add center xs]
        exact le_add_of_nonneg_right (mul_nonneg (Nat.cast_nonneg _) (sq_nonneg _))
    _ ≤ (squaredDeviations center xs).sum + (x - center) * (x - center) :=
        le_add_of_nonneg_right (mul_self_nonneg _)
    _ = (squaredDeviations center (xs ++ [x])).sum := by
        rw [squaredDeviations, squaredDeviations, List.map_append, List.sum_append,
          List.map_singleton, List.sum_singleton]

/-- What the variance of a list says about its values. -/
structure Dispersion (xs : List ℝ) : Prop where
  /-- Taken as often as there are pairs of places in either order, it comes to the squared differences of
  the pairs, each pair taken once. -/
  pairs : xs.length * (xs.length - 1) * variance xs
    = ∑ i : Fin xs.length, ∑ j ∈ Finset.Ioi i, (xs[i] - xs[j]) ^ 2
  nonneg : 0 ≤ variance xs
  eq_zero_iff : variance xs = 0 ↔ ∀ x ∈ xs, ∀ y ∈ xs, x = y
  reordered : ∀ ys : List ℝ, ys.Perm xs → variance ys = variance xs
  shifted : ∀ c, variance (xs.map (· + c)) = variance xs
  /-- What is added up before it is divided by the degrees of freedom never falls. -/
  extended : ∀ x, (xs.length - 1) * variance xs ≤ ((xs ++ [x]).length - 1) * variance (xs ++ [x])

theorem dispersion (xs : List ℝ) : Dispersion xs where
  pairs := length_mul_variance xs
  nonneg := variance_nonneg xs
  eq_zero_iff := variance_eq_zero_iff
  reordered _ := variance_perm
  shifted c := variance_map_add c xs
  extended := pred_length_mul_variance_le xs

end Restock.Statistics
