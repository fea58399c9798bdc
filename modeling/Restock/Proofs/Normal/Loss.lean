import Mathlib.MeasureTheory.Integral.IntervalIntegral.FundThmCalculus
import Restock.Proofs.Arithmetic.Exact
import Restock.Stocking

/-!
# The standard normal loss

The density is its own derivative up to the factor `-t` (`Gaussian.hasDerivAt_density`). So between two
points the density falls by the integral of `t` against it, and the tail by the integral of the density
alone. The factor `t` lies between the two points, which bounds one fall by the other from both sides.

From these bounds the expected shortfall of a standard normal demand falls as the buffer rises
(`standardLoss_antitone`), by no more than the buffer rises (`standardLoss_sub_le`).
-/

namespace Restock

open MeasureTheory Set

/-! ## The density and the tail -/

namespace Gaussian

theorem integral_density : ∫ t : ℝ, density t = 1 := by
  have hgaussian (t : ℝ) : density t
      = Real.exp (-(1 / 2) * t ^ 2) / Real.sqrt (Real.pi / (1 / 2)) := by
    show Real.exp (-(t ^ 2) / 2) / Real.sqrt (2 * Real.pi) = _
    ring_nf
  simp only [hgaussian]
  rw [integral_div, integral_gaussian]
  exact div_self (Real.sqrt_pos.2 (by positivity)).ne'

theorem tail_nonneg (a : ℝ) : 0 ≤ tail a := integral_nonneg density_nonneg

theorem tail_le_one (a : ℝ) : tail a ≤ 1 := by
  have h : ∫ t in Ioi a, density t ≤ ∫ t : ℝ, density t :=
    setIntegral_le_integral integrable_density (.of_forall density_nonneg)
  rwa [integral_density] at h

theorem hasDerivAt_density (t : ℝ) : HasDerivAt density (-(t * density t)) t := by
  have hexponent : HasDerivAt (fun t : ℝ => -(t ^ 2) / 2) (-t) t := by
    refine ((hasDerivAt_pow 2 t).neg.div_const 2).congr_deriv ?_
    push_cast
    ring
  refine (hexponent.exp.div_const (Real.sqrt (2 * Real.pi))).congr_deriv ?_
  show Real.exp (-(t ^ 2) / 2) * -t / Real.sqrt (2 * Real.pi)
    = -(t * (Real.exp (-(t ^ 2) / 2) / Real.sqrt (2 * Real.pi)))
  ring

theorem continuous_density : Continuous (density : ℝ → ℝ) :=
  continuous_iff_continuousAt.2 fun t => (hasDerivAt_density t).continuousAt

theorem continuous_mul_density : Continuous fun t : ℝ => t * density t :=
  continuous_id.mul continuous_density

theorem density_sub_density (a b : ℝ) : density a - density b = ∫ t in a..b, t * density t := by
  have h := intervalIntegral.integral_eq_sub_of_hasDerivAt (fun t _ => hasDerivAt_density t)
    (continuous_mul_density.neg.intervalIntegrable a b)
  rw [intervalIntegral.integral_neg] at h
  linarith

variable {a b : ℝ}

theorem tail_sub_tail (h : a ≤ b) : tail a - tail b = ∫ t in a..b, density t :=
  intervalIntegral.integral_Ioi_sub_Ioi integrable_density.integrableOn h

theorem mul_tail_sub_tail_le (h : a ≤ b) : a * (tail a - tail b) ≤ density a - density b := by
  rw [tail_sub_tail h, density_sub_density, ← intervalIntegral.integral_const_mul]
  refine intervalIntegral.integral_mono_on h
    ((continuous_density.const_mul a).intervalIntegrable a b)
    (continuous_mul_density.intervalIntegrable a b) ?_
  intro t ht
  exact mul_le_mul_of_nonneg_right ht.1 (density_nonneg t)

theorem density_sub_density_le (h : a ≤ b) : density a - density b ≤ b * (tail a - tail b) := by
  rw [tail_sub_tail h, density_sub_density, ← intervalIntegral.integral_const_mul]
  refine intervalIntegral.integral_mono_on h (continuous_mul_density.intervalIntegrable a b)
    ((continuous_density.const_mul b).intervalIntegrable a b) ?_
  intro t ht
  exact mul_le_mul_of_nonneg_right ht.2 (density_nonneg t)

end Gaussian

/-! ## The loss -/

open Gaussian in
theorem standardLoss_antitone : Antitone (standardLoss : ℝ → ℝ) := by
  intro a b h
  have hdensity := mul_tail_sub_tail_le h
  have htail : 0 ≤ (b - a) * tail b := mul_nonneg (sub_nonneg.2 h) (tail_nonneg b)
  show density b - b * tail b ≤ density a - a * tail a
  linarith

open Gaussian in
/-- A unit of buffer covers at most a unit of demand. -/
theorem standardLoss_sub_le {a b : ℝ} (h : a ≤ b) : standardLoss a - standardLoss b ≤ b - a := by
  have hdensity := density_sub_density_le h
  have htail : (b - a) * tail a ≤ (b - a) * 1 :=
    mul_le_mul_of_nonneg_left (tail_le_one a) (sub_nonneg.2 h)
  show density a - a * tail a - (density b - b * tail b) ≤ b - a
  linarith

end Restock
