import Restock.Proofs.Arithmetic.Pairs
import Restock.Proofs.Arithmetic.Smoothing
import Restock.Proofs.Season.Levels
import Restock.Proofs.Units.Forecast
import Restock.Wording

/-!
# Peaks and lows of a season

The months that a report singles out stand out from the others: their indices are held against the mean of
all indices, which is above zero as the indices are conserved (`Statistics.meanIndex_pos`). Some month is
at the mean or below it and some month at it or above (`Statistics.exists_index_le`,
`Statistics.exists_le_index`), so that not all can be peaks, nor all lows. Without variation there are
neither. A report reads no more of a history than its indices (`SeasonalProfile.exists_sameSeasons`), and
these are the same in all units and in any order.
-/

namespace Restock

open Observation Statistics

/-! ## The mean index -/

namespace Statistics

variable {history : List (Observation ℝ)}

theorem monthsOf_ne_nil (hne : history ≠ []) : monthsOf history ≠ [] := by
  obtain ⟨o, ho⟩ := List.exists_mem_of_ne_nil history hne
  exact List.ne_nil_of_mem (mem_monthsOf.2 ⟨o, ho, rfl⟩)

theorem nonneg_of_mem_indices {x : ℝ} (h : x ∈ (monthsOf history).map (monthIndex history)) :
    0 ≤ x := by
  obtain ⟨m, _, rfl⟩ := List.mem_map.1 h
  exact monthIndex_nonneg history m

/-- The mean index is above zero, even where nothing is demanded. -/
theorem meanIndex_pos (hne : history ≠ []) : 0 < meanIndex history := by
  refine (Scalar.mean_nonneg fun _ => nonneg_of_mem_indices).lt_of_ne' fun hzero => ?_
  have hsum : ((monthsOf history).map (monthIndex history)).sum = 0 := by
    rw [← Scalar.length_mul_mean, hzero, mul_zero]
  have hall : ∀ m ∈ monthsOf history, monthIndex history m = 0 := fun m hm =>
    List.all_zero_of_le_zero_le_of_sum_eq_zero (fun _ => nonneg_of_mem_indices) hsum
      (List.mem_map_of_mem hm)
  -- then the indices would come to nothing, and not to the number of observations
  have hconserved : (0 : ℝ) = history.length := by
    rw [← sum_timesObserved_mul history]
    refine (List.sum_eq_zero fun x hx => ?_).symm
    obtain ⟨m, hm, rfl⟩ := List.mem_map.1 hx
    rw [hall m hm, mul_zero]
  exact hne (List.eq_nil_of_length_eq_zero (Nat.cast_eq_zero.1 hconserved.symm))

theorem exists_index_le (hne : history ≠ []) :
    ∃ m, Observed history m ∧ monthIndex history m ≤ meanIndex history := by
  obtain ⟨⟨x, hx, hle⟩, _⟩ := within_mean (mt List.map_eq_nil_iff.1 (monthsOf_ne_nil hne))
  obtain ⟨m, hm, rfl⟩ := List.mem_map.1 hx
  exact ⟨m, mem_monthsOf.1 hm, hle⟩

theorem exists_le_index (hne : history ≠ []) :
    ∃ m, Observed history m ∧ meanIndex history ≤ monthIndex history m := by
  obtain ⟨_, x, hx, hle⟩ := within_mean (mt List.map_eq_nil_iff.1 (monthsOf_ne_nil hne))
  obtain ⟨m, hm, rfl⟩ := List.mem_map.1 hx
  exact ⟨m, mem_monthsOf.1 hm, hle⟩

end Statistics

/-- The months that are singled out are listed in the order of the year. -/
theorem pairwise_monthsWhere (history : List (Observation ℝ)) (holds : ℝ → Bool) :
    (monthsWhere (seasonalIndex history) holds).Pairwise (· < ·) := by
  have heq : monthsWhere (seasonalIndex history) holds
      = (monthsOf history).filter fun m => holds (monthIndex history m) := by
    rw [monthsWhere, seasonalIndex_eq, List.filter_map, List.map_map]
    exact List.map_id' _
  rw [heq]
  exact pairwise_monthsOf.filter _

/-! ## Reports -/

namespace SeasonalProfile

variable {history other : List (Observation ℝ)} {periodMonths : Int} {base : ℝ}
  {product location : String} {p : SeasonalProfile ℝ}

theorem variation_eq (h : ofHistory history periodMonths base product location = .ok p) :
    p.variation = variationCoefficient ((seasonalIndex history).map Prod.snd) := by
  obtain ⟨_, _, h⟩ := Planned.bind_eq_ok.1 h
  split at h
  · cases h
  · cases h
    rfl

/-- There is no variation where no month is off the mean. -/
theorem variation_eq_zero_iff (h : ofHistory history periodMonths base product location = .ok p)
    (hne : history ≠ []) :
    p.variation = 0 ↔ ∀ m, Observed history m → monthIndex history m = meanIndex history := by
  have hmean := meanIndex_pos hne
  have hvariation : p.variation
      = populationDeviation ((monthsOf history).map (monthIndex history)) / meanIndex history := by
    rw [variation_eq h, map_snd_seasonalIndex]
    exact if_pos hmean
  rw [hvariation, div_eq_zero_iff, or_iff_left hmean.ne', populationDeviation_eq_zero_iff]
  simp only [List.forall_mem_map, mem_monthsOf, meanIndex]

theorem strategy_eq_level_iff :
    p.strategy = "Maintain level stocking; no pronounced seasonality"
      ↔ p.peakMonths = [] ∧ p.lowMonths = [] := by
  rw [strategy, isSeasonal]
  by_cases hpeak : p.peakMonths = []
  · by_cases hlow : p.lowMonths = []
    · simp [hpeak, hlow]
    · simp [hpeak, hlow]
  · simp [hpeak]

/-- How the peaks and lows of a report stand out from the months that were observed. -/
structure Contrasts (history : List (Observation ℝ)) (p : SeasonalProfile ℝ) : Prop where
  peaks_ascending : p.peakMonths.Pairwise (· < ·)
  lows_ascending : p.lowMonths.Pairwise (· < ·)
  peak_observed : ∀ m ∈ p.peakMonths, Observed history m
  low_observed : ∀ m ∈ p.lowMonths, Observed history m
  disjoint : p.peakMonths.Disjoint p.lowMonths
  /-- Some month is no peak, and some month is no low. -/
  not_all_peaks : ∃ m, Observed history m ∧ m ∉ p.peakMonths
  not_all_lows : ∃ m, Observed history m ∧ m ∉ p.lowMonths
  unvaried : p.variation = 0 → p.peakMonths = [] ∧ p.lowMonths = []
  level_iff : p.strategy = "Maintain level stocking; no pronounced seasonality"
    ↔ p.peakMonths = [] ∧ p.lowMonths = []

theorem contrasts (h : ofHistory history periodMonths base product location = .ok p) :
    p.Contrasts history := by
  have hne : history ≠ [] := (exists_ofHistory_iff.1 ⟨p, h⟩).2
  have hmean := meanIndex_pos hne
  have hclass := classifies h
  obtain ⟨hpeak, hlow⟩ := peaks_and_lows_eq h
  -- what is above a peak's bound, or below a low's, is off the mean to that side
  have habove : ∀ m ∈ p.peakMonths, meanIndex history < monthIndex history m := fun m hm =>
    lt_of_le_of_lt (by linarith) ((hclass.peak m).1 hm).2
  have hbelow : ∀ m ∈ p.lowMonths, monthIndex history m < meanIndex history := fun m hm =>
    lt_of_lt_of_le ((hclass.low m).1 hm).2 (by linarith)
  exact
    { peaks_ascending := hpeak ▸ pairwise_monthsWhere history _
      lows_ascending := hlow ▸ pairwise_monthsWhere history _
      peak_observed := fun m hm => ((hclass.peak m).1 hm).1
      low_observed := fun m hm => ((hclass.low m).1 hm).1
      disjoint := fun m hp hl => lt_asymm (habove m hp) (hbelow m hl)
      not_all_peaks := by
        obtain ⟨m, hm, hle⟩ := exists_index_le hne
        exact ⟨m, hm, fun hp => not_lt.2 hle (habove m hp)⟩
      not_all_lows := by
        obtain ⟨m, hm, hle⟩ := exists_le_index hne
        exact ⟨m, hm, fun hl => not_lt.2 hle (hbelow m hl)⟩
      unvaried := by
        intro hzero
        have hequal := (variation_eq_zero_iff h hne).1 hzero
        constructor
        · refine List.eq_nil_iff_forall_not_mem.2 fun m hm => ?_
          exact (habove m hm).ne' (hequal m ((hclass.peak m).1 hm).1)
        · refine List.eq_nil_iff_forall_not_mem.2 fun m hm => ?_
          exact (hbelow m hm).ne (hequal m ((hclass.low m).1 hm).1)
      level_iff := strategy_eq_level_iff }

/-- Reports that tell of the same seasons. -/
structure SameSeasons (p q : SeasonalProfile ℝ) : Prop where
  indices : p.indices = q.indices
  peakMonths : p.peakMonths = q.peakMonths
  lowMonths : p.lowMonths = q.lowMonths
  variation : p.variation = q.variation

/-- **A report goes by the indices** of a history. -/
theorem exists_sameSeasons (h : ofHistory history periodMonths base product location = .ok p)
    (hne : other ≠ []) (hindices : seasonalIndex other = seasonalIndex history) :
    ∃ q, ofHistory other periodMonths base product location = .ok q ∧ q.SameSeasons p := by
  have hscope := (exists_ofHistory_iff.1 ⟨p, h⟩).1
  obtain ⟨q, hq⟩ : ∃ q, ofHistory other periodMonths base product location = .ok q :=
    exists_ofHistory_iff.2 ⟨hscope, hne⟩
  have hmean : meanIndex other = meanIndex history := by
    rw [meanIndex, ← map_snd_seasonalIndex, hindices, map_snd_seasonalIndex, meanIndex]
  obtain ⟨hpeak, hlow⟩ := peaks_and_lows_eq h
  obtain ⟨hpeak', hlow'⟩ := peaks_and_lows_eq hq
  refine ⟨q, hq, ?_, ?_, ?_, ?_⟩
  · rw [(made hq).indices, (made h).indices, hindices]
  · rw [hpeak', hpeak, hindices, hmean]
  · rw [hlow', hlow, hindices, hmean]
  · rw [variation_eq hq, variation_eq h, hindices]

/-- **Peaks and lows stand out.** There is a report of any observations, for a period of a month or more
and any level. Its peaks and lows are different months in the order of the year, and never all that were
observed. Neither the units of demand nor the order of the observations counts. -/
theorem contrasts_ofHistory (hne : history ≠ []) (hperiod : 1 ≤ periodMonths) (hbase : 0 ≤ base)
    (product location : String) :
    ∃ p, ofHistory history periodMonths base product location = .ok p
      ∧ p.Contrasts history
      ∧ (∀ u : Conversion, ∃ q,
        ofHistory (u.history history) periodMonths base product location = .ok q ∧ q.SameSeasons p)
      ∧ ∀ other, other.Perm history → ∃ q,
        ofHistory other periodMonths base product location = .ok q ∧ q.SameSeasons p := by
  obtain ⟨p, h⟩ : ∃ p, ofHistory history periodMonths base product location = .ok p :=
    exists_ofHistory_iff.2 ⟨⟨hperiod, hbase⟩, hne⟩
  refine ⟨p, h, contrasts h, fun u => ?_, fun other hperm => ?_⟩
  · exact exists_sameSeasons h (mt List.map_eq_nil_iff.1 hne) (u.seasonalIndex_history history)
  · exact exists_sameSeasons h (fun hnil => hne (hnil ▸ hperm).nil_eq.symm)
      (seasonalIndex_of_perm (hperm.map _))

/-- February sold more than the mean of the two months, and January less. -/
theorem winterSales_peak_and_low (h : ofHistory winterSales 12 100 "bolt" "depot" = .ok p) :
    1 ∈ p.peakMonths ∧ 0 ∈ p.lowMonths := by
  have hmonthly : monthly winterSales = [(0, 1), (1, 3)] := rfl
  have hall : Scalar.mean (quantities winterSales) = 2 := by
    rw [quantities_eq_monthly, hmonthly, Scalar.mean_real]
    norm_num
  have hindex (m : Month) : monthIndex winterSales m = Scalar.mean (inMonth winterSales m) / 2 := by
    rw [monthIndex, hall, if_neg (by norm_num)]
  have hmean : meanIndex winterSales = 1 :=
    meanIndex_of_even evenlyObserved_winterSales (List.cons_ne_nil _ _)
  have hclass := classifies h
  constructor
  · refine (hclass.peak 1).2 ⟨by decide +kernel, ?_⟩
    have hfebruary : inMonth winterSales 1 = [3] := by simp [inMonth_eq, hmonthly]
    rw [hmean, hindex, hfebruary, Scalar.mean_real]
    norm_num
  · refine (hclass.low 0).2 ⟨by decide +kernel, ?_⟩
    have hjanuary : inMonth winterSales 0 = [1] := by simp [inMonth_eq, hmonthly]
    rw [hmean, hindex, hjanuary, Scalar.mean_real]
    norm_num

/-- They stay what they are when the sales are counted in dozens, or listed the other way round. -/
theorem contrasts_winterSales :
    ∃ p, ofHistory winterSales 12 100 "bolt" "depot" = .ok p
      ∧ p.Contrasts winterSales ∧ 1 ∈ p.peakMonths ∧ 0 ∈ p.lowMonths
      ∧ (∃ q, ofHistory (Conversion.history ⟨1 / 12, by norm_num⟩ winterSales) 12 100 "bolt" "depot"
        = .ok q ∧ q.SameSeasons p)
      ∧ ∃ q, ofHistory winterSales.reverse 12 100 "bolt" "depot" = .ok q ∧ q.SameSeasons p := by
  obtain ⟨p, h, hcontrasts, hunits, horder⟩ := contrasts_ofHistory
    (List.cons_ne_nil _ _ : winterSales ≠ []) (by decide : (1 : Int) ≤ 12)
    (by norm_num : (0 : ℝ) ≤ 100) "bolt" "depot"
  obtain ⟨hpeak, hlow⟩ := winterSales_peak_and_low h
  exact ⟨p, h, hcontrasts, hpeak, hlow, hunits _, horder _ (List.reverse_perm _)⟩

end SeasonalProfile

end Restock
