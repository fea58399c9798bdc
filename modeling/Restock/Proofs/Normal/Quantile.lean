import Mathlib.Analysis.SpecialFunctions.Log.Basic
import Restock.Normal.Quantile
import Restock.Proofs.Arithmetic.Exact

/-!
# The approximate normal quantile

The approximation corrects the root of a negative logarithm by a quotient of polynomials, and mirrors the
lower half of the distribution in the upper one (`Normal.quantile_one_sub`). The quotient falls as the root
rises, because each power weighs less in the numerator than the powers below it do, when measured by the
denominator (`Normal.quantileNumerator_mul_lt`). So the distance of a tail from the mean falls as the tail
grows (`Normal.tailDistance_strictAntiOn`), and on each half the quantile rises with the probability.
-/

namespace Restock.Normal

open Set

/-! ## The correction -/

theorem quantileNumerator_real (t : ℝ) :
    quantileNumerator t = 2.515517 + 0.802853 * t + 0.010328 * t ^ 2 := by
  show Scalar.fraction 2515517 6 + Scalar.fraction 802853 6 * t + Scalar.fraction 10328 6 * t ^ 2 = _
  simp only [Scalar.fraction_real]
  norm_num

theorem quantileDenominator_real (t : ℝ) :
    quantileDenominator t = 1 + 1.432788 * t + 0.189269 * t ^ 2 + 0.001308 * t ^ 3 := by
  show 1 + Scalar.fraction 1432788 6 * t + Scalar.fraction 189269 6 * t ^ 2
    + Scalar.fraction 1308 6 * t ^ 3 = _
  simp only [Scalar.fraction_real]
  norm_num

theorem quantileDenominator_pos {t : ℝ} (ht : 0 ≤ t) : 0 < quantileDenominator t := by
  rw [quantileDenominator_real]
  positivity

/-- Far enough out the correction is less than what it corrects. -/
theorem quantileNumerator_lt {t : ℝ} (ht : 1.3 ≤ t) :
    quantileNumerator t < t * quantileDenominator t := by
  rw [quantileNumerator_real, quantileDenominator_real]
  have hsq : (1.69 : ℝ) ≤ t ^ 2 := by nlinarith
  have hcube : 0 ≤ t ^ 3 := by positivity
  have hfourth : 0 ≤ t ^ 4 := by positivity
  nlinarith

/-- The numerator grows by less than the denominator does. -/
theorem quantileNumerator_mul_lt {a b : ℝ} (ha : 0 ≤ a) (hab : a < b) :
    quantileNumerator b * quantileDenominator a < quantileNumerator a * quantileDenominator b := by
  have hb : 0 ≤ b := ha.trans hab.le
  -- one term for each pair of powers, and each of them is positive
  have hgap : quantileNumerator a * quantileDenominator b
        - quantileNumerator b * quantileDenominator a
      = (b - a) * ((2.515517 * 1.432788 - 0.802853)
        + (2.515517 * 0.189269 - 0.010328) * (a + b)
        + 2.515517 * 0.001308 * (a ^ 2 + a * b + b ^ 2)
        + (0.802853 * 0.189269 - 0.010328 * 1.432788) * (a * b)
        + 0.802853 * 0.001308 * (a * b * (a + b))
        + 0.010328 * 0.001308 * (a ^ 2 * b ^ 2)) := by
    simp only [quantileNumerator_real, quantileDenominator_real]
    ring
  rw [← sub_pos, hgap]
  refine mul_pos (sub_pos.2 hab) ?_
  norm_num
  positivity

theorem correction_strictAntiOn :
    StrictAntiOn (fun t : ℝ => quantileNumerator t / quantileDenominator t) (Ici 0) := by
  intro a ha b hb hab
  exact (div_lt_div_iff₀ (quantileDenominator_pos hb) (quantileDenominator_pos ha)).2
    (quantileNumerator_mul_lt ha hab)

/-! ## Tails -/

/-- What the distance of a tail is computed from. -/
noncomputable def tailRoot (tail : ℝ) : ℝ := Scalar.sqrt (-Scalar.ofNat 2 * Scalar.log tail)

theorem tailRoot_eq (tail : ℝ) : tailRoot tail = √(-2 * Real.log tail) := by
  rw [tailRoot, Scalar.ofNat_real, Nat.cast_ofNat]
  rfl

theorem tailDistance_eq (tail : ℝ) : tailDistance tail
    = tailRoot tail - quantileNumerator (tailRoot tail) / quantileDenominator (tailRoot tail) := rfl

theorem tailRoot_nonneg (tail : ℝ) : 0 ≤ tailRoot tail := Real.sqrt_nonneg _

theorem tailRoot_strictAntiOn : StrictAntiOn tailRoot (Ioc 0 1) := by
  intro a ha b hb hab
  have hlog : Real.log a < Real.log b := Real.log_lt_log ha.1 hab
  have hb : Real.log b ≤ 0 := Real.log_nonpos hb.1.le hb.2
  rw [tailRoot_eq, tailRoot_eq]
  exact Real.sqrt_lt_sqrt (by linarith) (by linarith)

/-- **A larger tail begins nearer to the mean.** -/
theorem tailDistance_strictAntiOn : StrictAntiOn (tailDistance : ℝ → ℝ) (Ioc 0 1) := by
  intro a ha b hb hab
  have hroot := tailRoot_strictAntiOn ha hb hab
  have hcorrection := correction_strictAntiOn (tailRoot_nonneg b) (tailRoot_nonneg a) hroot
  rw [tailDistance_eq, tailDistance_eq]
  exact sub_lt_sub hroot hcorrection

/-- A tail of three twentieths at most begins above the mean. -/
theorem tailDistance_pos {tail : ℝ} (hpos : 0 < tail) (h : tail ≤ 3 / 20) :
    0 < tailDistance tail := by
  have hlog : Real.log tail ≤ tail - 1 := Real.log_le_sub_one_of_pos hpos
  have ht : 1.3 ≤ tailRoot tail := by
    rw [tailRoot_eq]
    exact Real.le_sqrt_of_sq_le (by linarith)
  rw [tailDistance_eq]
  exact sub_pos.2 ((div_lt_iff₀ (quantileDenominator_pos (tailRoot_nonneg tail))).2
    (quantileNumerator_lt ht))

/-! ## Quantiles -/

variable {p : ℝ}

theorem half_eq : (Scalar.fraction 5 1 : ℝ) = 1 / 2 := by
  rw [Scalar.fraction_real]
  norm_num

theorem quantile_of_le_half (h : p ∈ Ioc 0 (1 / 2)) : quantile p = -tailDistance p := by
  have hin : ¬ (p ≤ 0 ∨ 1 ≤ p) := by
    rw [not_or]
    constructor <;> linarith [h.1, h.2]
  rw [quantile, if_neg hin, half_eq, if_neg (not_lt.2 h.2)]

theorem quantile_of_half_lt (h : p ∈ Ioo (1 / 2) 1) : quantile p = tailDistance (1 - p) := by
  have hin : ¬ (p ≤ 0 ∨ 1 ≤ p) := by
    rw [not_or]
    constructor <;> linarith [h.1, h.2]
  rw [quantile, if_neg hin, half_eq, if_pos h.1]

/-- The quantile of a high service level is positive. -/
theorem quantile_pos (h : 17 / 20 ≤ p) (hlt : p < 1) : 0 < quantile p := by
  rw [quantile_of_half_lt ⟨by linarith, hlt⟩]
  exact tailDistance_pos (by linarith) (by linarith)

/-- **Quantiles are symmetric** around one half. -/
theorem quantile_one_sub (h : p ∈ Ioo 0 1) (hne : p ≠ 1 / 2) : quantile (1 - p) = -quantile p := by
  rcases hne.lt_or_gt with hlow | hhigh
  · rw [quantile_of_half_lt ⟨by linarith, by linarith [h.1]⟩,
      quantile_of_le_half ⟨h.1, hlow.le⟩, neg_neg, sub_sub_cancel]
  · rw [quantile_of_half_lt ⟨hhigh, h.2⟩,
      quantile_of_le_half ⟨by linarith [h.2], by linarith⟩]

theorem quantile_strictMonoOn_lower : StrictMonoOn (quantile : ℝ → ℝ) (Ioc 0 (1 / 2)) := by
  intro a ha b hb hab
  rw [quantile_of_le_half ha, quantile_of_le_half hb]
  have hone : (1 / 2 : ℝ) ≤ 1 := by norm_num
  exact neg_lt_neg (tailDistance_strictAntiOn ⟨ha.1, ha.2.trans hone⟩ ⟨hb.1, hb.2.trans hone⟩ hab)

theorem quantile_strictMonoOn_upper : StrictMonoOn (quantile : ℝ → ℝ) (Ioo (1 / 2) 1) := by
  intro a ha b hb hab
  rw [quantile_of_half_lt ha, quantile_of_half_lt hb]
  exact tailDistance_strictAntiOn ⟨by linarith [hb.2], by linarith [hb.1]⟩
    ⟨by linarith [ha.2], by linarith [ha.1]⟩ (by linarith)

end Restock.Normal
