import Mathlib.Order.Interval.Set.Basic
import Restock.Proofs.Season.Profile

/-!
# How a seasonal report tells months apart

A seasonal report tells months apart twice. Its peaks and lows are found by the mean of the indices. The
reason for the stock of a month goes by the index itself, as the recommended level does
(`SeasonalProfile.Classifies`). So they agree on a month unless its index lies between the two bounds that
it is held against (`SeasonalProfile.Classifies.selfConsistent_iff`). There is nothing in between when the
indices have a mean of one, as they do if the months are observed equally often
(`Statistics.meanIndex_of_even`).
-/

namespace Restock

open Observation Statistics

/-! ## The mean of the indices -/

namespace Statistics

/-- The mean of the indices of the months that occur, each taken once. -/
noncomputable def meanIndex (history : List (Observation ℝ)) : ℝ :=
  Scalar.mean ((monthsOf history).map (monthIndex history))

/-- The months that occur are all observed equally often. -/
def EvenlyObserved (history : List (Observation ℝ)) : Prop :=
  ∀ m m', Observed history m → Observed history m' →
    timesObserved history m = timesObserved history m'

variable {history : List (Observation ℝ)}

theorem map_snd_seasonalIndex (history : List (Observation ℝ)) :
    (seasonalIndex history).map Prod.snd = (monthsOf history).map (monthIndex history) := by
  rw [seasonalIndex_eq, List.map_map]
  rfl

/-- Taken once or as often as their months are observed, the indices then have the same mean. -/
theorem meanIndex_of_even (h : EvenlyObserved history) (hne : history ≠ []) :
    meanIndex history = 1 := by
  obtain ⟨o, ho⟩ := List.exists_mem_of_ne_nil history hne
  have hm : Observed history o.day.month := ⟨o, ho, rfl⟩
  let times : ℝ := timesObserved history o.day.month
  have htimes : ∀ m ∈ monthsOf history, (timesObserved history m : ℝ) = times := fun m hmem =>
    congrArg Nat.cast (h m o.day.month (mem_monthsOf.1 hmem) hm)
  have hindices : times * ((monthsOf history).map (monthIndex history)).sum = history.length := by
    rw [← sum_timesObserved_mul history, ← List.sum_map_mul_left]
    exact congrArg List.sum (List.map_congr_left fun m hmem => by rw [htimes m hmem])
  have hmonths : times * (monthsOf history).length = history.length := by
    rw [← sum_timesObserved history, List.map_congr_left htimes, List.map_const', List.sum_replicate,
      nsmul_eq_mul, mul_comm]
  have hlength : (history.length : ℝ) ≠ 0 :=
    Nat.cast_ne_zero.2 (mt List.eq_nil_of_length_eq_zero hne)
  have hpos : times ≠ 0 := left_ne_zero_of_mul (hmonths ▸ hlength)
  calc meanIndex history
      = ((monthsOf history).map (monthIndex history)).sum / (monthsOf history).length := by
        rw [meanIndex, Scalar.mean_real, List.length_map]
    _ = history.length / history.length := by
        rw [← mul_div_mul_left _ _ hpos, hindices, hmonths]
    _ = 1 := div_self hlength

end Statistics

/-! ## Bounds -/

theorem peakRatio_real : (peakRatio : ℝ) = 6 / 5 := by
  rw [peakRatio, Scalar.fraction_real]
  norm_num

theorem lowRatio_real : (lowRatio : ℝ) = 4 / 5 := by
  rw [lowRatio, Scalar.fraction_real]
  norm_num

namespace SeasonLevel

theorem of_eq_highDemand_iff {index : ℝ} : of index = .highDemand ↔ 6 / 5 < index := by
  rw [of, peakRatio_real]
  split
  · next h => exact iff_of_true rfl h
  · next h =>
    refine iff_of_false ?_ h
    split <;> exact nofun

theorem of_eq_lowDemand_iff {index : ℝ} : of index = .lowDemand ↔ index < 4 / 5 := by
  rw [of, peakRatio_real, lowRatio_real]
  split
  · next h => exact iff_of_false nofun (by linarith)
  · split
    · next h => exact iff_of_true rfl h
    · next h => exact iff_of_false nofun h

theorem of_one : of (1 : ℝ) = .normalDemand := by
  rw [of, peakRatio_real, lowRatio_real, if_neg (by norm_num), if_neg (by norm_num)]

end SeasonLevel

/-- A month whose index lies between a bound and that bound for the mean of the indices. -/
def Disputed (history : List (Observation ℝ)) (m : Month) : Prop :=
  monthIndex history m ∈ Set.Ioc (min (peakRatio * meanIndex history) peakRatio)
      (max (peakRatio * meanIndex history) peakRatio)
    ∨ monthIndex history m ∈ Set.Ico (min (lowRatio * meanIndex history) lowRatio)
      (max (lowRatio * meanIndex history) lowRatio)

theorem not_disputed_of_meanIndex {history : List (Observation ℝ)} (h : meanIndex history = 1)
    (m : Month) : ¬ Disputed history m := by
  simp [Disputed, h]

theorem mem_monthsWhere {history : List (Observation ℝ)} {holds : ℝ → Bool} {m : Month} :
    m ∈ monthsWhere (seasonalIndex history) holds
      ↔ Observed history m ∧ holds (monthIndex history m) = true := by
  simp [monthsWhere, seasonalIndex_eq, mem_monthsOf, List.filter_map]

section
variable {a b x : ℝ}

/-- Two lower bounds tell apart what lies above one of them only. -/
theorem lt_iff_lt_iff_notMem_Ioc : (a < x ↔ b < x) ↔ x ∉ Set.Ioc (min a b) (max a b) := by
  rw [Set.mem_Ioc, min_lt_iff, le_max_iff, ← not_lt, ← not_lt]
  tauto

theorem lt_iff_lt_iff_notMem_Ico : (x < a ↔ x < b) ↔ x ∉ Set.Ico (min a b) (max a b) := by
  rw [Set.mem_Ico, min_le_iff, lt_max_iff, ← not_lt, ← not_lt]
  tauto

end

/-! ## Reports -/

namespace SeasonalProfile

variable {history : List (Observation ℝ)} {periodMonths : Int} {base : ℝ} {product location : String}
  {p : SeasonalProfile ℝ}

/-- How a report tells the months of a history apart. -/
structure Classifies (history : List (Observation ℝ)) (base : ℝ) (p : SeasonalProfile ℝ) : Prop where
  months : p.adjustments.map SeasonalAdjustment.month = Month.all
  peak : ∀ m, m ∈ p.peakMonths
    ↔ Observed history m ∧ 6 / 5 * meanIndex history < monthIndex history m
  low : ∀ m, m ∈ p.lowMonths
    ↔ Observed history m ∧ monthIndex history m < 4 / 5 * meanIndex history
  stockLevel : ∀ a ∈ p.adjustments, Observed history a.month →
    a.stockLevel = base * monthIndex history a.month
  highDemand : ∀ a ∈ p.adjustments, Observed history a.month →
    (a.level = .highDemand ↔ 6 / 5 < monthIndex history a.month)
  lowDemand : ∀ a ∈ p.adjustments, Observed history a.month →
    (a.level = .lowDemand ↔ monthIndex history a.month < 4 / 5)
  /-- Where nothing was observed, nothing is changed. -/
  elsewhere : ∀ a ∈ p.adjustments, ¬ Observed history a.month →
    a.stockLevel = base ∧ a.level = .normalDemand

/-- The peaks and lows are the months that have such a reason for their stock. -/
def SelfConsistent (history : List (Observation ℝ)) (p : SeasonalProfile ℝ) : Prop :=
  ∀ a ∈ p.adjustments, Observed history a.month →
    (a.month ∈ p.peakMonths ↔ a.level = .highDemand)
    ∧ (a.month ∈ p.lowMonths ↔ a.level = .lowDemand)

theorem peaks_and_lows_eq
    (h : ofHistory history periodMonths base product location = .ok p) :
    p.peakMonths
        = monthsWhere (seasonalIndex history) (fun s => decide (meanIndex history * peakRatio < s))
      ∧ p.lowMonths
        = monthsWhere (seasonalIndex history) (fun s => decide (s < meanIndex history * lowRatio)) := by
  obtain ⟨_, _, h⟩ := Planned.bind_eq_ok.1 h
  rw [meanIndex, ← map_snd_seasonalIndex]
  split at h
  · cases h
  · cases h
    exact ⟨rfl, rfl⟩

theorem classifies (h : ofHistory history periodMonths base product location = .ok p) :
    p.Classifies history base := by
  obtain ⟨hpeak, hlow⟩ := peaks_and_lows_eq h
  have hmade := made h
  -- a month that does not occur has an index as well, which is one
  have hadjust : ∀ a ∈ p.adjustments,
      a = SeasonalAdjustment.of base a.month
        (if Observed history a.month then monthIndex history a.month else 1) := by
    intro a ha
    rw [hmade.adjustments] at ha
    obtain ⟨m, _, rfl⟩ := List.mem_map.1 ha
    rw [hmade.indices, indexOf_seasonalIndex]
    rfl
  have hobserved : ∀ a ∈ p.adjustments, Observed history a.month →
      a = SeasonalAdjustment.of base a.month (monthIndex history a.month) := by
    intro a ha hm
    have heq := hadjust a ha
    rwa [if_pos hm] at heq
  exact
    { months := (hmade.spreadsBase (exists_ofHistory_iff.1 ⟨p, h⟩).2).months
      peak := by
        intro m
        rw [hpeak, mem_monthsWhere, decide_eq_true_iff, peakRatio_real, mul_comm]
      low := by
        intro m
        rw [hlow, mem_monthsWhere, decide_eq_true_iff, lowRatio_real, mul_comm]
      stockLevel := fun a ha hm => congrArg SeasonalAdjustment.stockLevel (hobserved a ha hm)
      highDemand := by
        intro a ha hm
        rw [← SeasonLevel.of_eq_highDemand_iff]
        exact (congrArg SeasonalAdjustment.level (hobserved a ha hm)).congr_left
      lowDemand := by
        intro a ha hm
        rw [← SeasonLevel.of_eq_lowDemand_iff]
        exact (congrArg SeasonalAdjustment.level (hobserved a ha hm)).congr_left
      elsewhere := by
        intro a ha hm
        have heq := hadjust a ha
        rw [if_neg hm] at heq
        rw [heq]
        exact ⟨mul_one base, SeasonLevel.of_one⟩ }

/-- A report agrees with itself as long as no month is disputed. -/
theorem Classifies.selfConsistent_iff (h : p.Classifies history base) :
    p.SelfConsistent history ↔ ∀ m, Observed history m → ¬ Disputed history m := by
  have hmonth : ∀ a ∈ p.adjustments, Observed history a.month →
      ((a.month ∈ p.peakMonths ↔ a.level = .highDemand)
          ∧ (a.month ∈ p.lowMonths ↔ a.level = .lowDemand)
        ↔ ¬ Disputed history a.month) := by
    intro a ha hm
    rw [h.peak, h.low, h.highDemand a ha hm, h.lowDemand a ha hm, and_iff_right hm, and_iff_right hm,
      lt_iff_lt_iff_notMem_Ioc, lt_iff_lt_iff_notMem_Ico, Disputed, peakRatio_real, lowRatio_real,
      not_or]
  constructor
  · intro hp m hm
    have hmem : m ∈ p.adjustments.map SeasonalAdjustment.month := by
      rw [h.months]
      exact List.mem_finRange m
    obtain ⟨a, ha, rfl⟩ := List.mem_map.1 hmem
    exact (hmonth a ha hm).1 (hp a ha hm)
  · intro hall a ha hm
    exact (hmonth a ha hm).2 (hall a.month hm)

/-- **When a report agrees with itself.** There is a report of any observations, for a period of a month
or more and any level. Its peaks and lows are the months with such a reason exactly if no month is
disputed; so they are if the months are observed equally often. -/
theorem classifies_ofHistory (history : List (Observation ℝ)) (hne : history ≠ [])
    {periodMonths : Int} {base : ℝ} (hperiod : 1 ≤ periodMonths) (hbase : 0 ≤ base)
    (product location : String) :
    ∃ p, ofHistory history periodMonths base product location = .ok p
      ∧ p.Classifies history base
      ∧ (p.SelfConsistent history ↔ ∀ m, Observed history m → ¬ Disputed history m)
      ∧ (EvenlyObserved history → p.SelfConsistent history) := by
  obtain ⟨p, h⟩ : ∃ p, ofHistory history periodMonths base product location = .ok p :=
    exists_ofHistory_iff.2 ⟨⟨hperiod, hbase⟩, hne⟩
  have hclass := classifies h
  refine ⟨p, h, hclass, hclass.selfConsistent_iff, fun heven => ?_⟩
  exact hclass.selfConsistent_iff.2 fun m _ => not_disputed_of_meanIndex (meanIndex_of_even heven hne) m

theorem evenlyObserved_winterSales : EvenlyObserved winterSales := by
  unfold EvenlyObserved
  decide +kernel

/-- January and February were observed once each. -/
theorem winterSales_selfConsistent :
    ∃ p, ofHistory winterSales 12 100 "bolt" "depot" = .ok p ∧ p.Classifies winterSales 100
      ∧ p.SelfConsistent winterSales := by
  obtain ⟨p, h, hclass, _, heven⟩ := classifies_ofHistory winterSales (List.cons_ne_nil _ _)
    (by decide : (1 : Int) ≤ 12) (by norm_num : (0 : ℝ) ≤ 100) "bolt" "depot"
  exact ⟨p, h, hclass, heven evenlyObserved_winterSales⟩

/-- Sales of three days of January 2024 and of one of February, when it was higher. -/
noncomputable def unevenMonths : List (Observation ℝ) :=
  [(⟨738893, by decide, by decide⟩, 10), (⟨738894, by decide, by decide⟩, 10),
    (⟨738895, by decide, by decide⟩, 10), (⟨738924, by decide, by decide⟩, 14)].map
    fun (day, units) => ⟨day, (units : Nat), rfl, not_lt.2 (Nat.cast_nonneg units)⟩

/-- The indices are 10/11 and 14/11, with a mean of 12/11. -/
theorem disputed_unevenMonths : Disputed unevenMonths 1 := by
  have hmonths : monthsOf unevenMonths = [0, 1] := by decide +kernel
  have hmonthly : monthly unevenMonths
      = [(0, (10 : Nat)), (0, (10 : Nat)), (0, (10 : Nat)), (1, (14 : Nat))].map
        fun (month, units) => (month, (units : ℝ)) := rfl
  have hjanuary : inMonth unevenMonths 0 = [10, 10, 10] := by
    simp [inMonth_eq, hmonthly]
  have hfebruary : inMonth unevenMonths 1 = [14] := by
    simp [inMonth_eq, hmonthly]
  have hall : Scalar.mean (quantities unevenMonths) = 11 := by
    rw [quantities_eq_monthly, hmonthly, Scalar.mean_real]
    norm_num
  have hindex (m : Month) : monthIndex unevenMonths m = Scalar.mean (inMonth unevenMonths m) / 11 := by
    rw [monthIndex, hall, if_neg (by norm_num)]
  have hmean : meanIndex unevenMonths = 12 / 11 := by
    simp only [meanIndex, hmonths, List.map_cons, List.map_nil, hindex, hjanuary, hfebruary,
      Scalar.mean_real]
    norm_num
  left
  rw [hindex, hfebruary, hmean, Scalar.mean_real, peakRatio_real]
  norm_num

/-- **A report can disagree with itself.** February is no peak, as its index is not above 6/5 of the mean
of the indices; but it is above 6/5, and so the demand of February is high. -/
theorem not_selfConsistent_unevenMonths :
    ∃ p, ofHistory unevenMonths 2 100 "bolt" "depot" = .ok p ∧ ¬ p.SelfConsistent unevenMonths := by
  obtain ⟨p, h⟩ : ∃ p, ofHistory unevenMonths 2 100 "bolt" "depot" = .ok p :=
    exists_ofHistory_iff.2 ⟨⟨by decide, by norm_num⟩, List.cons_ne_nil _ _⟩
  refine ⟨p, h, fun hp => ?_⟩
  have hobserved : Observed unevenMonths 1 := by decide +kernel
  exact (classifies h).selfConsistent_iff.1 hp 1 hobserved disputed_unevenMonths

end SeasonalProfile

end Restock
