import Restock.Proofs.Arithmetic.TrailingMeans

/-!
# Smoothed values and what they are smoothed from

A mean lies within the values that it is taken of (`within_mean`), and so does a blend of two values that
do (`Within.blend`). Hence each value of a smoothed series lies within the values up to its place. It needs
no others: smoothing the first values of a series gives the first values of the smoothed one
(`take_smooth`, `take_slidingMeans`).
-/

namespace Restock.Statistics

open Scalar

/-- Between the least and the greatest value of a list. -/
def Within (xs : List ℝ) (y : ℝ) : Prop := (∃ a ∈ xs, a ≤ y) ∧ ∃ b ∈ xs, y ≤ b

section
variable {xs ys : List ℝ} {x y : ℝ}

theorem within_of_mem (h : x ∈ xs) : Within xs x := ⟨⟨x, h, le_refl x⟩, x, h, le_refl x⟩

theorem mem_take_succ {i : Nat} (h : xs[i]? = some x) : x ∈ xs.take (i + 1) := by
  refine List.mem_of_getElem? (i := i) ?_
  rw [List.getElem?_take_of_lt (Nat.lt_succ_self i), h]

theorem Within.mono (h : Within xs y) (hsub : xs ⊆ ys) : Within ys y := by
  obtain ⟨⟨a, ha, hay⟩, b, hb, hyb⟩ := h
  exact ⟨⟨a, hsub ha, hay⟩, b, hsub hb, hyb⟩

theorem Within.blend (hx : Within xs x) (hy : Within xs y) {alpha : ℝ} (h : alpha ∈ Set.Icc 0 1) :
    Within xs (alpha * x + (1 - alpha) * y) := by
  have hrest : 0 ≤ 1 - alpha := sub_nonneg.2 h.2
  rcases le_total x y with hxy | hyx
  · obtain ⟨a, ha, hax⟩ := hx.1
    obtain ⟨b, hb, hyb⟩ := hy.2
    refine ⟨⟨a, ha, hax.trans ?_⟩, b, hb, hyb.trans' ?_⟩
    · nlinarith [mul_nonneg hrest (sub_nonneg.2 hxy)]
    · nlinarith [mul_nonneg h.1 (sub_nonneg.2 hxy)]
  · obtain ⟨a, ha, hay⟩ := hy.1
    obtain ⟨b, hb, hxb⟩ := hx.2
    refine ⟨⟨a, ha, hay.trans ?_⟩, b, hb, hxb.trans' ?_⟩
    · nlinarith [mul_nonneg h.1 (sub_nonneg.2 hyx)]
    · nlinarith [mul_nonneg hrest (sub_nonneg.2 hyx)]

/-- **A mean** lies within the values that it is taken of. -/
theorem within_mean (hne : xs ≠ []) : Within xs (mean xs) := by
  have hsum : (xs.map fun _ => mean xs).sum = (xs.map id).sum := by
    rw [List.map_const', List.sum_replicate, nsmul_eq_mul, length_mul_mean, List.map_id]
  exact ⟨List.exists_le_of_sum_le hne id (fun _ => mean xs) hsum.ge,
    List.exists_le_of_sum_le hne (fun _ => mean xs) id hsum.le⟩

end

/-! ## Exponential smoothing -/

theorem take_smoothFrom (alpha previous : ℝ) (xs : List ℝ) (n : Nat) :
    (smoothFrom alpha previous xs).take n = smoothFrom alpha previous (xs.take n) := by
  induction xs generalizing previous n with
  | nil => simp [smoothFrom]
  | cons x xs ih =>
      cases n with
      | zero => rfl
      | succ n => simp only [smoothFrom, List.take_succ_cons, ih]

theorem take_smooth (alpha : ℝ) (xs : List ℝ) (n : Nat) :
    (smooth alpha xs).take n = smooth alpha (xs.take n) := by
  cases xs with
  | nil => simp [smooth]
  | cons x xs =>
      cases n with
      | zero => rfl
      | succ n => simp only [smooth, List.take_succ_cons, take_smoothFrom]

/-- **A step of smoothing**: each smoothed value blends its value with the smoothed one before it. -/
theorem getElem?_smoothFrom {alpha previous x y : ℝ} {xs : List ℝ} {i : Nat} (hx : xs[i]? = some x)
    (hy : (previous :: smoothFrom alpha previous xs)[i]? = some y) :
    (smoothFrom alpha previous xs)[i]? = some (alpha * x + (1 - alpha) * y) := by
  induction xs generalizing previous i with
  | nil => cases hx
  | cons x' xs ih =>
      rw [smoothFrom] at hy ⊢
      cases i with
      | zero =>
          obtain rfl := Option.some.inj hx
          obtain rfl := Option.some.inj hy
          rfl
      | succ i => exact ih hx hy

theorem getElem?_smooth_zero (alpha : ℝ) (xs : List ℝ) : (smooth alpha xs)[0]? = xs[0]? := by
  cases xs <;> rfl

theorem getElem?_smooth_succ {alpha x y : ℝ} {xs : List ℝ} {i : Nat} (hx : xs[i + 1]? = some x)
    (hy : (smooth alpha xs)[i]? = some y) :
    (smooth alpha xs)[i + 1]? = some (alpha * x + (1 - alpha) * y) := by
  cases xs with
  | nil => cases hx
  | cons x' xs => exact getElem?_smoothFrom hx hy

theorem within_smooth {alpha : ℝ} (h : alpha ∈ Set.Icc 0 1) {xs : List ℝ} {i : Nat} {y : ℝ}
    (hy : (smooth alpha xs)[i]? = some y) : Within (xs.take (i + 1)) y := by
  induction i generalizing y with
  | zero =>
      rw [getElem?_smooth_zero] at hy
      exact within_of_mem (mem_take_succ hy)
  | succ i ih =>
      have hi : i + 1 < (smooth alpha xs).length := (List.getElem?_eq_some_iff.1 hy).1
      have hx := List.getElem?_eq_getElem (length_smooth alpha xs ▸ hi)
      have hprevious := List.getElem?_eq_getElem (Nat.lt_of_succ_lt hi)
      rw [getElem?_smooth_succ hx hprevious] at hy
      obtain rfl := Option.some.inj hy
      have hseen := (ih hprevious).mono (List.take_subset_take_left xs (Nat.le_succ (i + 1)))
      exact (within_of_mem (mem_take_succ hx)).blend hseen h

/-! ## Sliding windows -/

/-- What a window drops, it drops sooner or later. -/
theorem rtake_rtake_append (size : Nat) (xs ys : List ℝ) :
    (xs.rtake size ++ ys).rtake size = (xs ++ ys).rtake size := by
  simp only [List.rtake_eq_reverse_take_reverse, List.reverse_append, List.reverse_reverse,
    List.take_append, List.take_take, min_eq_left (Nat.sub_le size ys.reverse.length)]

theorem take_slidingMeans (size : Nat) (held xs : List ℝ) (n : Nat) :
    (slidingMeans size held xs).take n = slidingMeans size held (xs.take n) := by
  induction xs generalizing held n with
  | nil => simp [slidingMeans]
  | cons x xs ih =>
      cases n with
      | zero => rfl
      | succ n => simp only [slidingMeans, List.take_succ_cons, ih]

/-- **At each place** the window holds the last values that fit. -/
theorem eq_mean_of_slidingMeans {size : Nat} {held xs : List ℝ} {i : Nat} {y : ℝ}
    (hy : (slidingMeans size held xs)[i]? = some y) :
    y = mean ((held ++ xs.take (i + 1)).rtake size) := by
  induction xs generalizing held i with
  | nil => cases hy
  | cons x xs ih =>
      rw [slidingMeans] at hy
      cases i with
      | zero => exact (Option.some.inj hy).symm
      | succ i =>
          rw [ih hy, rtake_rtake_append, List.append_assoc, List.singleton_append,
            List.take_succ_cons]

theorem within_slidingMeans {size : Nat} (hsize : 1 ≤ size) {xs : List ℝ} {i : Nat} {y : ℝ}
    (hy : (slidingMeans size [] xs)[i]? = some y) : Within (xs.take (i + 1)) y := by
  have hi : i < xs.length := by
    have hi := (List.getElem?_eq_some_iff.1 hy).1
    rwa [length_slidingMeans] at hi
  have hne : (xs.take (i + 1)).rtake size ≠ [] := by
    rw [← List.length_pos_iff, length_rtake, List.length_take]
    omega
  have hsuffix : (xs.take (i + 1)).rtake size <:+ xs.take (i + 1) := List.drop_suffix _ _
  rw [eq_mean_of_slidingMeans hy, List.nil_append]
  exact (within_mean hne).mono hsuffix.subset

end Restock.Statistics
