import Mathlib.Analysis.SpecialFunctions.Gaussian.GaussianIntegral
import Restock.Scalar.Sum

/-!
# Exact arithmetic

The real numbers as a number system: every operation has its textbook meaning, no value stands for
"not a number" and none is infinite. Over them the ways to add up a list agree, and the normal
distribution is what it is in a textbook.
-/

namespace Restock

noncomputable instance : Scalar ℝ where
  toZero := inferInstance
  toOne := inferInstance
  toAdd := inferInstance
  toSub := inferInstance
  toMul := inferInstance
  toDiv := inferInstance
  toNeg := inferInstance
  toLT := inferInstance
  toLE := inferInstance
  beq a b := decide (a = b)
  decLt _ _ := inferInstance
  decLe _ _ := inferInstance
  ofDecimal negative digits exponent :=
    (if negative then -1 else 1) * (digits : ℝ) * (10 : ℝ) ^ exponent
  nan? := none
  infinity? _ := none
  sqrt := Real.sqrt
  log := Real.log
  pow a n := a ^ n
  isFinite _ := true
  truncate a := if 0 ≤ a then ⌊a⌋ else ⌈a⌉

/-- The standard normal distribution: its density, and the mass above a point. -/
noncomputable instance : Gaussian ℝ where
  density x := Real.exp (-(x ^ 2) / 2) / Real.sqrt (2 * Real.pi)
  tail x := ∫ t in Set.Ioi x, Real.exp (-(t ^ 2) / 2) / Real.sqrt (2 * Real.pi)

namespace Scalar

@[simp] theorem isFinite_real (x : ℝ) : isFinite x = true := rfl

@[simp] theorem isNaN_real (x : ℝ) : isNaN x = false := by
  simp [isNaN]

theorem abs_real (x : ℝ) : Scalar.abs x = |x| := by
  unfold Scalar.abs
  split
  · next h => exact (abs_of_neg h).symm
  · next h => exact (abs_of_nonneg (not_lt.1 h)).symm

@[simp] theorem max_real (x y : ℝ) : Scalar.max x y = max x y := by
  unfold Scalar.max
  split
  · next h => exact (max_eq_right h.le).symm
  · next h => exact (max_eq_left (not_lt.1 h)).symm

@[simp] theorem min_real (x y : ℝ) : Scalar.min x y = min x y := by
  unfold Scalar.min
  split
  · next h => exact (min_eq_right h.le).symm
  · next h => exact (min_eq_left (not_lt.1 h)).symm

@[simp] theorem fraction_real (digits places : Nat) :
    (Scalar.fraction digits places : ℝ) = digits / 10 ^ places := by
  show 1 * (digits : ℝ) * (10 : ℝ) ^ (-(places : Int)) = digits / 10 ^ places
  rw [one_mul, zpow_neg, zpow_natCast, div_eq_mul_inv]

@[simp] theorem ofNat_real (n : Nat) : (Scalar.ofNat n : ℝ) = n := by
  show 1 * (n : ℝ) * (10 : ℝ) ^ (0 : Int) = n
  rw [one_mul, zpow_zero, mul_one]

@[simp] theorem ofInt_real (n : Int) : (Scalar.ofInt n : ℝ) = n := by
  show (if decide (n < 0) = true then -1 else 1) * (n.natAbs : ℝ) * (10 : ℝ) ^ (0 : Int) = n
  rw [zpow_zero, mul_one, Nat.cast_natAbs, Int.cast_abs]
  by_cases h : n < 0
  · have hr : (n : ℝ) < 0 := Int.cast_lt_zero.2 h
    simp [h, abs_of_neg hr]
  · have hr : 0 ≤ (n : ℝ) := Int.cast_nonneg (not_lt.1 h)
    simp [h, abs_of_nonneg hr]

/-! ## Sums -/

theorem foldl_add_real (xs : List ℝ) (a : ℝ) : xs.foldl (· + ·) a = a + xs.sum := by
  induction xs generalizing a with
  | nil => exact (add_zero a).symm
  | cons x xs ih => rw [List.foldl_cons, ih, List.sum_cons, add_assoc]

@[simp] theorem sum_real (xs : List ℝ) : Scalar.sum xs = xs.sum :=
  (foldl_add_real xs 0).trans (zero_add _)

/-- Nothing is rounded away, so the error that is carried along stays zero. -/
theorem settle_push_real (total x : ℝ) :
    ((⟨total, 0⟩ : Running ℝ).push x).settle = ⟨total + x, 0⟩ := by
  simp [Running.push, Running.settle]

@[simp] theorem compensatedSum_real (xs : List ℝ) : compensatedSum xs = xs.sum := by
  have h (total : ℝ) : xs.foldl (fun r x => (Running.push r x).settle) ⟨total, 0⟩
      = ⟨total + xs.sum, 0⟩ := by
    induction xs generalizing total with
    | nil => simp
    | cons x xs ih => rw [List.foldl_cons, settle_push_real, ih, List.sum_cons, add_assoc]
  show (xs.foldl (fun r x => (Running.push r x).settle) ⟨0, 0⟩).total = xs.sum
  rw [h, zero_add]

theorem laneSum_real (r₀ r₁ r₂ r₃ r₄ r₅ r₆ r₇ : ℝ) (xs : List ℝ) :
    laneSum r₀ r₁ r₂ r₃ r₄ r₅ r₆ r₇ xs = r₀ + r₁ + r₂ + r₃ + r₄ + r₅ + r₆ + r₇ + xs.sum := by
  fun_induction laneSum r₀ r₁ r₂ r₃ r₄ r₅ r₆ r₇ xs with
  | case1 r₀ r₁ r₂ r₃ r₄ r₅ r₆ r₇ x₀ x₁ x₂ x₃ x₄ x₅ x₆ x₇ rest ih =>
      rw [ih]
      simp only [List.sum_cons]
      ring
  | case2 r₀ r₁ r₂ r₃ r₄ r₅ r₆ r₇ rest =>
      rw [foldl_add_real]
      ring

theorem shortSum_real (xs : List ℝ) : shortSum xs = xs.sum := by
  unfold shortSum
  split
  · rw [laneSum_real]
    simp only [List.sum_cons]
    ring
  · exact sum_real xs

@[simp] theorem blockSum_real (xs : List ℝ) : blockSum xs = xs.sum := by
  fun_induction blockSum xs with
  | case1 xs h => exact shortSum_real xs
  | case2 xs h half ih₁ ih₂ =>
      rw [ih₁, ih₂, ← List.sum_append, List.take_append_drop]

@[simp] theorem mean_real (xs : List ℝ) : mean xs = xs.sum / xs.length := by
  rw [mean, blockSum_real, ofNat_real]

theorem mean_perm {xs ys : List ℝ} (h : xs.Perm ys) : mean xs = mean ys := by
  rw [mean_real, mean_real, h.sum_eq, h.length_eq]

theorem mean_nonneg {xs : List ℝ} (h : ∀ x ∈ xs, 0 ≤ x) : 0 ≤ mean xs := by
  rw [mean_real]
  exact div_nonneg (List.sum_nonneg h) (Nat.cast_nonneg _)

theorem length_mul_mean (xs : List ℝ) : xs.length * mean xs = xs.sum := by
  cases xs with
  | nil => simp
  | cons x xs =>
      rw [mean_real]
      exact mul_div_cancel₀ _ (Nat.cast_ne_zero.2 (Nat.succ_ne_zero _))

end Scalar

/-! ## The normal distribution -/

theorem Gaussian.integrable_density : MeasureTheory.Integrable (Gaussian.density : ℝ → ℝ) := by
  have h := (integrable_exp_neg_mul_sq (b := 1 / 2) (by norm_num)).div_const
    (Real.sqrt (2 * Real.pi))
  refine h.congr (.of_forall fun t => ?_)
  show Real.exp (-(1 / 2) * t ^ 2) / _ = Real.exp (-(t ^ 2) / 2) / _
  ring_nf

theorem Gaussian.density_nonneg (t : ℝ) : 0 ≤ Gaussian.density t := by
  show 0 ≤ Real.exp (-(t ^ 2) / 2) / Real.sqrt (2 * Real.pi)
  positivity

/-- The mass above a point falls as the point rises. -/
theorem Gaussian.tail_antitone : Antitone (Gaussian.tail : ℝ → ℝ) := by
  intro a b hab
  exact MeasureTheory.setIntegral_mono_set integrable_density.integrableOn
    (.of_forall density_nonneg) (Set.Ioi_subset_Ioi hab).eventuallyLE

end Restock
