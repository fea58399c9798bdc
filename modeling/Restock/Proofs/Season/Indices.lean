import Restock.Proofs.Demand.DailySums
import Restock.Statistics.Season
import Restock.Table

/-!
# Seasonal indices

In exact arithmetic a month that occurs has one index (`seasonalIndex_eq`), and of a history the indices
read no more than which month each quantity belongs to (`seasonalIndex_of_perm`). The index of a month
stands for all its observations, so that taken once for each of them the indices add up to the number of
observations (`sum_timesObserved_mul`), whether anything is demanded or not.
-/

namespace Restock.Statistics

open Observation Scalar

/-! ## Months -/

/-- Whether a month occurs in a history, in any year. -/
def Observed {α : Type} [Scalar α] (history : List (Observation α)) (m : Month) : Prop :=
  ∃ o ∈ history, o.day.month = m

instance {α : Type} [Scalar α] (history : List (Observation α)) :
    DecidablePred (Observed history) := fun m =>
  inferInstanceAs (Decidable (∃ o ∈ history, o.day.month = m))

/-- How often a month was observed, in all years together. -/
def timesObserved {α : Type} [Scalar α] (history : List (Observation α)) (m : Month) : Nat :=
  (inMonth history m).length

/-- The quantities of a history, each with the month that it belongs to. -/
def monthly {α : Type} [Scalar α] (history : List (Observation α)) : List (Month × α) :=
  history.map fun o => (o.day.month, o.quantity)

section
variable {α : Type} [Scalar α] {history : List (Observation α)}

theorem monthsOf_eq (history : List (Observation α)) :
    monthsOf history = Month.all.filter fun m => Observed history m :=
  List.filter_congr fun m _ => by
    rw [Bool.eq_iff_iff, List.any_eq_true, decide_eq_true_iff]
    simp only [decide_eq_true_eq, Observed]

theorem mem_monthsOf {m : Month} : m ∈ monthsOf history ↔ Observed history m := by
  simp [monthsOf_eq, Month.all]

/-- The months that occur are listed once, in the order of the year. -/
theorem pairwise_monthsOf : (monthsOf history).Pairwise (· < ·) :=
  (List.pairwise_lt_finRange 12).filter _

theorem inMonth_eq (history : List (Observation α)) (m : Month) :
    inMonth history m = ((monthly history).filter fun e => e.1 = m).map Prod.snd := by
  rw [monthly, List.filter_map, List.map_map]
  rfl

theorem quantities_eq_monthly (history : List (Observation α)) :
    quantities history = (monthly history).map Prod.snd := by
  rw [monthly, List.map_map]
  rfl

theorem observed_iff_monthly {m : Month} :
    Observed history m ↔ m ∈ (monthly history).map Prod.fst := by
  simp [monthly, Observed]

end

/-- The sums of all months add up to the sum of the history. -/
theorem sum_monthsOf (value : Observation ℝ → ℝ) (history : List (Observation ℝ)) :
    ((monthsOf history).map fun m =>
      ((history.filter fun o => o.day.month = m).map value).sum).sum = (history.map value).sum :=
  sum_sum_filter (pairwise_monthsOf.imp ne_of_lt) (fun o => o.day.month) value
    fun o ho => mem_monthsOf.2 ⟨o, ho, rfl⟩

theorem sum_timesObserved (history : List (Observation ℝ)) :
    ((monthsOf history).map fun m => (timesObserved history m : ℝ)).sum = history.length := by
  have h := sum_monthsOf (fun _ => 1) history
  simpa [timesObserved, inMonth] using h

/-! ## The index of a month -/

/-- What the index of a month is where it occurs. -/
noncomputable def monthIndex (history : List (Observation ℝ)) (m : Month) : ℝ :=
  if mean (quantities history) ≤ 0 then 1
  else mean (inMonth history m) / mean (quantities history)

variable {history : List (Observation ℝ)}

theorem seasonalIndex_eq (history : List (Observation ℝ)) :
    seasonalIndex history = (monthsOf history).map fun m => (m, monthIndex history m) := by
  simp only [seasonalIndex, monthIndex, monthlyMean, compensatedSum_real, ofNat_real, mean_real]

theorem eq_monthIndex {e : Month × ℝ} (h : e ∈ seasonalIndex history) :
    e.2 = monthIndex history e.1 := by
  rw [seasonalIndex_eq] at h
  obtain ⟨m, _, rfl⟩ := List.mem_map.1 h
  rfl

theorem indexOf_seasonalIndex (history : List (Observation ℝ)) (m : Month) :
    indexOf (seasonalIndex history) m = if Observed history m then monthIndex history m else 1 := by
  rw [indexOf, seasonalIndex_eq, lookup_graph]
  simp only [mem_monthsOf]
  split <;> rfl

theorem monthIndex_nonneg (history : List (Observation ℝ)) (m : Month) :
    0 ≤ monthIndex history m := by
  unfold monthIndex
  split
  · exact zero_le_one
  · next hpos =>
    exact div_nonneg (mean_nonneg fun _ => nonneg_of_mem_quantities) (not_le.1 hpos).le

theorem monthIndex_of_idle (h : ∀ o ∈ history, o.quantity = 0) (m : Month) :
    monthIndex history m = 1 :=
  if_pos (mean_quantities_nonpos_iff.2 h)

theorem monthIndex_mul_mean (history : List (Observation ℝ)) (m : Month) :
    monthIndex history m * mean (quantities history) = mean (inMonth history m) := by
  by_cases hidle : ∀ o ∈ history, o.quantity = 0
  · -- nothing is demanded in the month either
    have hmonth : mean (inMonth history m) = 0 :=
      mean_quantities_of_idle fun o ho => hidle o (List.mem_filter.1 ho).1
    rw [mean_quantities_of_idle hidle, mul_zero, hmonth]
  · have hmean : ¬ mean (quantities history) ≤ 0 := mt mean_quantities_nonpos_iff.1 hidle
    rw [monthIndex, if_neg hmean, div_mul_cancel₀ _ (not_le.1 hmean).ne']

/-- **Indices are conserved**: each taken as often as its month was observed, they add up to the number
of observations. -/
theorem sum_timesObserved_mul (history : List (Observation ℝ)) :
    ((monthsOf history).map fun m => timesObserved history m * monthIndex history m).sum
      = history.length := by
  by_cases hidle : ∀ o ∈ history, o.quantity = 0
  · -- without demand each index is one
    simp only [monthIndex_of_idle hidle, mul_one]
    exact sum_timesObserved history
  · have hmean : ¬ mean (quantities history) ≤ 0 := mt mean_quantities_nonpos_iff.1 hidle
    have hshare (m : Month) : timesObserved history m * monthIndex history m
        * mean (quantities history) = (inMonth history m).sum := by
      rw [mul_assoc, monthIndex_mul_mean, timesObserved, length_mul_mean]
    refine mul_right_cancel₀ (not_le.1 hmean).ne' ?_
    calc ((monthsOf history).map fun m => timesObserved history m * monthIndex history m).sum
          * mean (quantities history)
        = ((monthsOf history).map fun m => (inMonth history m).sum).sum := by
          rw [← List.sum_map_mul_right]
          simp only [hshare]
      _ = (quantities history).sum := sum_monthsOf quantity history
      _ = history.length * mean (quantities history) := by
          rw [← length_mul_mean, quantities, List.length_map]

/-- What the indices of a history are: one for each month that occurs, in the order of the year, with the
mean of the month as a multiple of the overall mean, and together as many as there are observations. -/
structure SeasonalIndices (history : List (Observation ℝ)) (indices : List (Month × ℝ)) : Prop where
  mem_months : ∀ m, m ∈ indices.map Prod.fst ↔ Observed history m
  ascending : (indices.map Prod.fst).Pairwise (· < ·)
  nonneg : ∀ e ∈ indices, 0 ≤ e.2
  /-- The mean of a month is its index times the mean of the history. -/
  scaled : ∀ e ∈ indices, e.2 * mean (quantities history) = mean (inMonth history e.1)
  /-- Where nothing is demanded, no month differs from another. -/
  level : (∀ o ∈ history, o.quantity = 0) → ∀ e ∈ indices, e.2 = 1
  conserved : (indices.map fun e => (timesObserved history e.1 : ℝ) * e.2).sum = history.length

theorem seasonalIndices (history : List (Observation ℝ)) :
    SeasonalIndices history (seasonalIndex history) := by
  have hmonths : (seasonalIndex history).map Prod.fst = monthsOf history := by
    rw [seasonalIndex_eq, List.map_map]
    exact List.map_id' (monthsOf history)
  constructor
  · intro m
    rw [hmonths, mem_monthsOf]
  · rw [hmonths]
    exact pairwise_monthsOf
  · intro e he
    rw [eq_monthIndex he]
    exact monthIndex_nonneg history e.1
  · intro e he
    rw [eq_monthIndex he, monthIndex_mul_mean]
  · intro hidle e he
    rw [eq_monthIndex he, monthIndex_of_idle hidle]
  · rw [seasonalIndex_eq, List.map_map]
    exact sum_timesObserved_mul history

/-! ## Order, years and days -/

theorem monthIndex_of_perm {other : List (Observation ℝ)}
    (h : (monthly other).Perm (monthly history)) (m : Month) :
    monthIndex other m = monthIndex history m := by
  have hmonth : mean (inMonth other m) = mean (inMonth history m) := by
    rw [inMonth_eq, inMonth_eq]
    exact mean_perm ((h.filter _).map Prod.snd)
  have hall : mean (quantities other) = mean (quantities history) := by
    rw [quantities_eq_monthly, quantities_eq_monthly]
    exact mean_perm (h.map Prod.snd)
  rw [monthIndex, monthIndex, hmonth, hall]

/-- **Indices go by month and quantity**: neither the order of the observations counts, nor the year and
the day of the month that each was made on. -/
theorem seasonalIndex_of_perm {other : List (Observation ℝ)}
    (h : (monthly other).Perm (monthly history)) : seasonalIndex other = seasonalIndex history := by
  have hmonths : monthsOf other = monthsOf history := by
    rw [monthsOf_eq, monthsOf_eq]
    refine List.filter_congr fun m _ => ?_
    simp only [observed_iff_monthly, (h.map Prod.fst).mem_iff]
  rw [seasonalIndex_eq, seasonalIndex_eq, hmonths]
  exact List.map_congr_left fun m _ => by rw [monthIndex_of_perm h]

end Restock.Statistics
