import Restock.Proofs.Stocking.Buffers

/-!
# More cover, more stock

A buffer rises with the quantile of its service level, and so with the level wherever the quantile does
(`bufferFor_le_of_quantile_le`). It rises with the lead time at any level: one that asks for less than the
mean has no buffer at all, however long the lead time (`bufferFor_le_of_leadTime_le`). In exact arithmetic
nothing but the level and the lead time can be refused, so `safetyStock_monotone` is about every history.
-/

namespace Restock

open Observation Set

/-- A service level between zero and one and a lead time that is not negative have a buffer. -/
theorem checkCover_real {serviceLevel leadTimeDays : ℝ} (hs : serviceLevel ∈ Ioo 0 1)
    (hl : leadTimeDays ∈ Ici 0) : checkCover serviceLevel leadTimeDays = .ok () := by
  have hlevel : ¬ (serviceLevel ≤ 0 ∨ 1 ≤ serviceLevel) :=
    not_or.2 ⟨not_le.2 hs.1, not_le.2 hs.2⟩
  rw [checkCover, if_neg hlevel, if_neg (not_lt.2 hl)]

/-- Every history has a variance, if need be by a share of its first quantity: no square is too large. -/
theorem exists_demandVariance (quantities : List ℝ) (variability : ℝ) :
    ∃ variance, demandVariance quantities variability = .ok variance := by
  unfold demandVariance
  split
  · exact ⟨_, rfl⟩
  · exact ⟨_, rfl⟩

theorem bufferFor_le_of_quantile_le {level level' : ℝ}
    (h : Normal.quantile level ≤ Normal.quantile level') (leadTimeDays variance : ℝ) :
    bufferFor level leadTimeDays variance ≤ bufferFor level' leadTimeDays variance := by
  rw [bufferFor_real, bufferFor_real]
  have hspread := mul_le_mul_of_nonneg_right h (Real.sqrt_nonneg variance)
  exact max_le_max_left 0 (mul_le_mul_of_nonneg_right hspread (Real.sqrt_nonneg leadTimeDays))

theorem bufferFor_le_of_leadTime_le {leadTime leadTime' : ℝ} (h : leadTime ≤ leadTime')
    (level variance : ℝ) : bufferFor level leadTime variance ≤ bufferFor level leadTime' variance := by
  have hroot : √leadTime ≤ √leadTime' := Real.sqrt_le_sqrt h
  rw [bufferFor_real, bufferFor_real]
  rcases le_total 0 (Normal.quantile level) with hz | hz
  · have hspread : 0 ≤ Normal.quantile level * √variance := mul_nonneg hz (Real.sqrt_nonneg variance)
    exact max_le_max_left 0 (mul_le_mul_of_nonneg_left hroot hspread)
  · -- less than the mean is no buffer, and stays none
    have hspread : Normal.quantile level * √variance ≤ 0 :=
      mul_nonpos_of_nonpos_of_nonneg hz (Real.sqrt_nonneg variance)
    rw [max_eq_left (mul_nonpos_of_nonpos_of_nonneg hspread (Real.sqrt_nonneg leadTime))]
    exact le_max_left _ _

/-- **More cover takes more stock.** Quantiles are symmetric and rise on each half of the distribution. The
safety stock of any history is the buffer for its variance, and rises with a service level above one half,
and with the lead time at every level. -/
theorem safetyStock_monotone :
    (∀ p ∈ Ioo (0 : ℝ) 1, p ≠ 1 / 2 → Normal.quantile (1 - p) = -Normal.quantile p)
    ∧ StrictMonoOn (Normal.quantile : ℝ → ℝ) (Ioc 0 (1 / 2))
    ∧ StrictMonoOn (Normal.quantile : ℝ → ℝ) (Ioo (1 / 2) 1)
    ∧ ∀ (history : List (Observation ℝ)) (variability : ℝ), ∃ variance,
      demandVariance (quantities history) variability = .ok variance
      ∧ (∀ level ∈ Ioo (0 : ℝ) 1, ∀ leadTime ∈ Ici (0 : ℝ),
        safetyStock history level leadTime variability = .ok (bufferFor level leadTime variance))
      ∧ (∀ leadTime ∈ Ici (0 : ℝ),
        MonotoneOn (fun level => bufferFor level leadTime variance) (Ioo (1 / 2) 1))
      ∧ ∀ level ∈ Ioo (0 : ℝ) 1,
        MonotoneOn (fun leadTime => bufferFor level leadTime variance) (Ici 0) := by
  refine ⟨fun p hp hne => Normal.quantile_one_sub hp hne, Normal.quantile_strictMonoOn_lower,
    Normal.quantile_strictMonoOn_upper, fun history variability => ?_⟩
  obtain ⟨variance, hv⟩ := exists_demandVariance (quantities history) variability
  refine ⟨variance, hv, ?_, ?_, ?_⟩
  · intro level hs leadTime hl
    rw [safetyStock_of_checkCover (checkCover_real hs hl), hv]
    rfl
  · intro leadTime _ a ha b hb hab
    exact bufferFor_le_of_quantile_le
      (Normal.quantile_strictMonoOn_upper.monotoneOn ha hb hab) leadTime variance
  · intro level _ a _ b _ hab
    exact bufferFor_le_of_leadTime_le hab level variance

/-- A bolt that was sold is covered at nine in ten by no less than at six in ten, and over nine days by no
less than over four. -/
theorem safetyStock_monotone_boltSale :
    Normal.quantile (1 - 9 / 10 : ℝ) = -Normal.quantile (9 / 10)
    ∧ Normal.quantile (1 / 10 : ℝ) < Normal.quantile (1 / 2)
    ∧ Normal.quantile (6 / 10 : ℝ) < Normal.quantile (9 / 10)
    ∧ ∃ low high long : ℝ, safetyStock [boltSale] (6 / 10) 4 (1 / 5) = .ok low
      ∧ safetyStock [boltSale] (9 / 10) 4 (1 / 5) = .ok high
      ∧ safetyStock [boltSale] (9 / 10) 9 (1 / 5) = .ok long ∧ low ≤ high ∧ high ≤ long := by
  obtain ⟨hsymmetric, hlower, hupper, hbuffers⟩ := safetyStock_monotone
  obtain ⟨variance, _, hbuffer, hlevel, hlead⟩ := hbuffers [boltSale] (1 / 5)
  have hfour : (4 : ℝ) ∈ Ici (0 : ℝ) := by norm_num
  have hnine : (9 : ℝ) ∈ Ici (0 : ℝ) := by norm_num
  have hsix : (6 / 10 : ℝ) ∈ Ioo (1 / 2 : ℝ) 1 := by norm_num
  have hhigh : (9 / 10 : ℝ) ∈ Ioo (1 / 2 : ℝ) 1 := by norm_num
  have hin : (9 / 10 : ℝ) ∈ Ioo (0 : ℝ) 1 := by norm_num
  refine ⟨hsymmetric _ hin (by norm_num), hlower (by norm_num) (by norm_num) (by norm_num),
    hupper hsix hhigh (by norm_num), _, _, _, hbuffer _ (by norm_num) _ hfour,
    hbuffer _ hin _ hfour, hbuffer _ hin _ hnine, ?_, ?_⟩
  · exact hlevel 4 hfour hsix hhigh (by norm_num)
  · exact hlead _ hin hfour hnine (by norm_num)

end Restock
