import Restock.Proofs.Demand.Lookback
import Restock.Proofs.Season.Indices
import Restock.Seasonality

/-!
# What a seasonal profile recommends

A profile scales its base level by the index of each month, and by one where a month does not occur. As
the indices are conserved, the levels recommended for the months that occur come to the base level again
when each counts as often as its month was observed (`SeasonalProfile.spreadsBase_ofHistory`): what is
added in some months is taken from others.
-/

namespace Restock

open Observation Statistics

/-- The mean of values that count as much as their weights say. -/
noncomputable def weightedMean {ι : Type} (weight value : ι → ℝ) (xs : List ι) : ℝ :=
  (xs.map fun x => weight x * value x).sum / (xs.map weight).sum

theorem checkSeasonalScope_eq_ok_iff {periodMonths : Int} {base : ℝ} :
    checkSeasonalScope periodMonths base = .ok () ↔ 1 ≤ periodMonths ∧ 0 ≤ base := by
  unfold checkSeasonalScope
  by_cases hperiod : periodMonths < 1
  · simp [hperiod]
  · by_cases hbase : base < 0
    · simp [hperiod, hbase]
    · simp [hperiod, not_lt.1 hperiod, hbase, not_lt.1 hbase]

namespace SeasonalProfile

variable {history : List (Observation ℝ)} {periodMonths : Int} {base : ℝ} {product location : String}
  {p : SeasonalProfile ℝ}

/-- What a profile made from a history holds. -/
structure Made (history : List (Observation ℝ)) (base : ℝ) (p : SeasonalProfile ℝ) : Prop where
  indices : p.indices = seasonalIndex history
  adjustments : p.adjustments
    = Month.all.map fun m => SeasonalAdjustment.of base m (indexOf p.indices m)

theorem made (h : ofHistory history periodMonths base product location = .ok p) :
    p.Made history base := by
  obtain ⟨_, _, h⟩ := Planned.bind_eq_ok.1 h
  split at h
  · cases h
  · cases h
    exact ⟨rfl, rfl⟩

/-- There is a profile of any observations, for a period of a month or more and any level. -/
theorem exists_ofHistory_iff :
    (∃ p, ofHistory history periodMonths base product location = .ok p)
      ↔ (1 ≤ periodMonths ∧ 0 ≤ base) ∧ history ≠ [] := by
  rw [← checkSeasonalScope_eq_ok_iff]
  constructor
  · rintro ⟨p, h⟩
    obtain ⟨_, hscope, h⟩ := Planned.bind_eq_ok.1 h
    refine ⟨hscope, fun hnil => ?_⟩
    rw [hnil] at h
    cases h
  · rintro ⟨hscope, hne⟩
    unfold ofHistory
    rw [hscope, Planned.ok_bind, List.isEmpty_eq_false_iff.2 hne]
    exact ⟨_, rfl⟩

/-- How the levels that a profile recommends go around its base level. -/
structure SpreadsBase (history : List (Observation ℝ)) (base : ℝ) (p : SeasonalProfile ℝ) :
    Prop where
  months : p.adjustments.map SeasonalAdjustment.month = Month.all
  /-- Over the months that occur, each counted as often as it was observed, they average to it. -/
  average : weightedMean (fun a => timesObserved history a.month) SeasonalAdjustment.stockLevel
    (p.adjustments.filter fun a => Observed history a.month) = base
  /-- In any other month they are the base level itself. -/
  elsewhere : ∀ a ∈ p.adjustments, ¬ Observed history a.month → a.stockLevel = base

/-- The adjustments of the months that occur, in the order of the year. -/
theorem Made.filter_adjustments (h : p.Made history base) :
    p.adjustments.filter (fun a => Observed history a.month)
      = (monthsOf history).map fun m => SeasonalAdjustment.of base m (monthIndex history m) := by
  rw [h.adjustments, List.filter_map, monthsOf_eq]
  refine List.map_congr_left fun m hm => ?_
  have hobserved : Observed history m := of_decide_eq_true (List.mem_filter.1 hm).2
  rw [h.indices, indexOf_seasonalIndex, if_pos hobserved]

theorem Made.spreadsBase (h : p.Made history base) (hne : history ≠ []) :
    p.SpreadsBase history base := by
  have hn : (history.length : ℝ) ≠ 0 := Nat.cast_ne_zero.2 fun hl =>
    hne (List.eq_nil_of_length_eq_zero hl)
  refine ⟨?_, ?_, ?_⟩
  · rw [h.adjustments, List.map_map]
    exact List.map_id' Month.all
  · have hweight (m : Month) : (timesObserved history m : ℝ) * (base * monthIndex history m)
        = base * (timesObserved history m * monthIndex history m) := mul_left_comm _ _ _
    rw [weightedMean, h.filter_adjustments, List.map_map, List.map_map]
    show ((monthsOf history).map fun m => timesObserved history m * (base * monthIndex history m)).sum
      / ((monthsOf history).map fun m => (timesObserved history m : ℝ)).sum = base
    simp only [hweight]
    rw [List.sum_map_mul_left, sum_timesObserved_mul, sum_timesObserved, mul_div_cancel_right₀ base hn]
  · intro a ha hquiet
    rw [h.adjustments] at ha
    obtain ⟨m, _, rfl⟩ := List.mem_map.1 ha
    have hquiet : ¬ Observed history m := hquiet
    have hone : indexOf p.indices m = 1 := by
      rw [h.indices, indexOf_seasonalIndex, if_neg hquiet]
    show base * indexOf p.indices m = base
    rw [hone, mul_one]

/-- **Seasons move stock, they do not add any.** The indices of a history are conserved, and go by month
and quantity alone; so the levels that a profile recommends for the months that occur average to its base
level over the observations, and any other month gets the base level. -/
theorem spreadsBase_ofHistory (history : List (Observation ℝ)) :
    SeasonalIndices history (seasonalIndex history)
    ∧ (∀ other, (monthly other).Perm (monthly history) → seasonalIndex other = seasonalIndex history)
    ∧ ∀ (periodMonths : Int) (base : ℝ) (product location : String),
      ((∃ p, ofHistory history periodMonths base product location = .ok p)
        ↔ (1 ≤ periodMonths ∧ 0 ≤ base) ∧ history ≠ [])
      ∧ ∀ p, ofHistory history periodMonths base product location = .ok p →
        p.indices = seasonalIndex history ∧ p.SpreadsBase history base := by
  refine ⟨seasonalIndices history, fun _ => seasonalIndex_of_perm, ?_⟩
  intro periodMonths base product location
  refine ⟨exists_ofHistory_iff, fun p h => ⟨(made h).indices, (made h).spreadsBase ?_⟩⟩
  exact (exists_ofHistory_iff.1 ⟨p, h⟩).2

/-- A bolt was sold in January and three in February. -/
noncomputable def winterSales : List (Observation ℝ) :=
  [boltSale, ⟨⟨40, by decide, by decide⟩, 3, rfl, by simp⟩]

/-- The same sales, the three bolts listed first and sold a year later. -/
noncomputable def laterSales : List (Observation ℝ) :=
  [⟨⟨410, by decide, by decide⟩, 3, rfl, by simp⟩, boltSale]

/-- The sales of a winter have the same indices in any year, and recommend less than the base level in
January for as much more in February; in July they recommend the base level. -/
theorem winterSales_spreadsBase :
    seasonalIndex laterSales = seasonalIndex winterSales
    ∧ ∃ p, ofHistory winterSales 12 100 "bolt" "depot" = .ok p
      ∧ weightedMean (fun a => timesObserved winterSales a.month) SeasonalAdjustment.stockLevel
        (p.adjustments.filter fun a => Observed winterSales a.month) = 100
      ∧ ∃ a ∈ p.adjustments, a.month = 6 ∧ a.stockLevel = 100 := by
  obtain ⟨_, hindices, hprofile⟩ := spreadsBase_ofHistory winterSales
  obtain ⟨hexists, hspreads⟩ := hprofile 12 100 "bolt" "depot"
  obtain ⟨p, hp⟩ := hexists.2 ⟨⟨by decide, by norm_num⟩, List.cons_ne_nil _ _⟩
  obtain ⟨_, hspread⟩ := hspreads p hp
  have hmonthly : (monthly laterSales).Perm (monthly winterSales) := List.Perm.swap _ _ _
  refine ⟨hindices laterSales hmonthly, p, hp, hspread.average, ?_⟩
  have hjuly : (6 : Month) ∈ p.adjustments.map SeasonalAdjustment.month := by
    rw [hspread.months]
    exact List.mem_finRange 6
  obtain ⟨a, ha, hmonth⟩ := List.mem_map.1 hjuly
  refine ⟨a, ha, hmonth, hspread.elsewhere a ha ?_⟩
  rw [hmonth]
  rintro ⟨o, ho, hday⟩
  simp only [winterSales, List.mem_cons, List.not_mem_nil, or_false] at ho
  rcases ho with rfl | rfl
  · cases hday
  · cases hday

end SeasonalProfile

end Restock
