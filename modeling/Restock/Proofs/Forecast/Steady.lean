import Restock.Proofs.Arithmetic.Constant
import Restock.Proofs.Forecast.Feasible
import Restock.Proofs.Risk.FirstPassage
import Restock.Proofs.Season.Indices
import Restock.Proofs.Stocking.Plan

/-!
# Steady demand

One quantity on every observation stays what it is through the whole chain. Each smoothing returns it,
it has no trend, no spread and no season, so every day of a forecast is that quantity for certain
(`Steady.exists_forecast`). Stock then runs out on the day after the last one that it covers in full
(`stockoutDay_replicate`), and a plan needs no safety stock (`Steady.exists_plan`). The chain as a whole
is `Steady.staysSteady`.
-/

namespace Restock

open Observation

/-- One quantity on every observation of a history. -/
structure Steady (v : ℝ) (history : List (Observation ℝ)) : Prop where
  nonempty : history ≠ []
  quantity : ∀ o ∈ history, o.quantity = v

/-! ## Running out -/

theorem demandBy_replicate (n days : Nat) (v : ℝ) :
    demandBy (List.replicate n v) days = (min days n : Nat) * v := by
  rw [demandBy, List.take_replicate, Statistics.sum_replicate_real]

/-- **Steady demand** uses up the stock on the day after the last one that is covered in full. -/
theorem stockoutDay_replicate {stock v : ℝ} (hs : 0 ≤ stock) (hv : 0 ≤ v) (n : Nat) :
    stockoutDay stock (List.replicate n v)
      = if 0 < v ∧ ⌊stock / v⌋₊ + 1 ≤ n then some (⌊stock / v⌋₊ + 1) else none := by
  have hsum : (List.replicate n v).sum = n * v := Statistics.sum_replicate_real n v
  have hdaily : ∀ x ∈ List.replicate n v, 0 ≤ x := by
    intro x hx
    rwa [(List.mem_replicate.1 hx).2]
  rcases hv.eq_or_lt with rfl | hpos
  · rw [if_neg fun h => lt_irrefl _ h.1, stockoutDay_eq_none_iff hdaily hs, hsum, mul_zero]
    exact hs
  · have hcovered (days : Nat) : stock < (days : ℝ) * v ↔ ⌊stock / v⌋₊ < days := by
      rw [Nat.floor_lt (div_nonneg hs hv), div_lt_iff₀ hpos]
    split
    · next h =>
      rw [stockoutDay_eq_some_iff hs]
      refine ⟨?_, fun days (hdays : stock < demandBy _ days) => ?_⟩
      · show stock < demandBy _ _
        rw [demandBy_replicate, min_eq_left h.2, hcovered]
        exact Nat.lt_succ_self _
      · rw [demandBy_replicate, hcovered] at hdays
        omega
    · next h =>
      rw [stockoutDay_eq_none_iff hdaily hs, hsum, ← not_lt, hcovered]
      have := not_and.1 h hpos
      omega

/-! ## Seasons, fit and accuracy -/

theorem ForecastPolicy.fit_replicate {policy : ForecastPolicy ℝ}
    (hplace : policy.baselineMethod = .movingAverage → 1 ≤ policy.movingAverageWindow) (n : Nat)
    (v : ℝ) : policy.fit (List.replicate n v) = .ok (List.replicate n v) := by
  unfold fit
  cases hm : policy.baselineMethod with
  | movingAverage => exact Statistics.trailingMean_replicate n v (hplace hm)
  | exponentialSmoothing =>
      exact congrArg Except.ok (Statistics.smooth_replicate n v policy.smoothingAlpha)

/-- A fit without error is fully accurate where it can be scored at all. -/
theorem fitAccuracy_of_fitError_self {xs : List ℝ} {fit : Option (Statistics.FitError ℝ)}
    (h : Statistics.fitError xs xs = .ok fit) :
    fitAccuracy fit = if ∃ x ∈ xs, x ≠ 0 then 1 else 0 := by
  rw [Statistics.fitError_self] at h
  rw [← Except.ok.inj h]
  by_cases hany : ∃ x ∈ xs, x ≠ 0
  · obtain ⟨x, hx, hne⟩ := hany
    have hempty : xs.isEmpty = false := List.isEmpty_eq_false_iff.2 (List.ne_nil_of_mem hx)
    have hscored : (xs.any fun x => !(x == 0)) = true :=
      List.any_eq_true.2 ⟨x, hx, by simpa using hne⟩
    have hone : (if ∃ x ∈ xs, x ≠ 0 then (1 : ℝ) else 0) = 1 := if_pos ⟨x, hx, hne⟩
    rw [hone, hempty, hscored]
    simp [fitAccuracy]
  · have hscored : (xs.any fun x => !(x == 0)) = false := by
      rw [List.any_eq_false]
      intro x hx
      simpa using fun hne => hany ⟨x, hx, hne⟩
    rw [if_neg hany, hscored]
    cases xs <;> rfl

namespace Steady

variable {v : ℝ} {history : List (Observation ℝ)} (h : Steady v history)
include h

theorem length_ne_zero : history.length ≠ 0 := fun hl => h.nonempty (List.eq_nil_of_length_eq_zero hl)

theorem nonneg : 0 ≤ v := by
  obtain ⟨o, ho⟩ := List.exists_mem_of_ne_nil history h.nonempty
  rw [← h.quantity o ho]
  exact o.quantity_nonneg

theorem quantities_eq : quantities history = List.replicate history.length v := by
  refine List.eq_replicate_iff.2 ⟨List.length_map _, ?_⟩
  intro q hq
  obtain ⟨o, ho, rfl⟩ := List.mem_map.1 hq
  exact h.quantity o ho

theorem mean_quantities : Scalar.mean (quantities history) = v := by
  rw [h.quantities_eq, Statistics.mean_replicate v h.length_ne_zero]

/-- The observations of a month are as steady as all of them. -/
theorem mean_inMonth {m : Month} (hm : Statistics.Observed history m) :
    Scalar.mean (Statistics.inMonth history m) = v := by
  obtain ⟨o, ho, hday⟩ := hm
  have hmonth : Steady v (history.filter fun o => o.day.month = m) :=
    ⟨List.ne_nil_of_mem (List.mem_filter.2 ⟨ho, decide_eq_true hday⟩), fun o ho =>
      h.quantity o (List.mem_filter.1 ho).1⟩
  exact hmonth.mean_quantities

theorem indexOf_seasonalIndex (m : Month) :
    Statistics.indexOf (Statistics.seasonalIndex history) m = 1 := by
  rw [Statistics.indexOf_seasonalIndex, ite_eq_right_iff]
  intro hm
  rw [Statistics.monthIndex, h.mean_quantities, h.mean_inMonth hm, ite_eq_left_iff]
  exact fun hv => div_self (not_le.1 hv).ne'

end Steady

/-! ## Forecasts -/

/-- A forecast of one quantity for certain, made from so many observations of it. -/
structure Forecast.IsSteady (f : Forecast ℝ) (v : ℝ) (observations horizon : Nat) : Prop where
  days : f.days = List.replicate horizon ⟨v, v, v⟩
  trend : f.trend = 0
  variance : f.variance = 0
  season : ∀ m, f.seasonality.get m = 1
  accuracy : f.accuracy = if 2 ≤ observations ∧ 0 < v then 1 else 0

theorem Forecast.IsSteady.daily_eq {f : Forecast ℝ} {v : ℝ} {observations horizon : Nat}
    (h : f.IsSteady v observations horizon) : f.daily = List.replicate horizon v := by
  rw [daily, h.days, List.map_replicate]

namespace Steady

variable {v : ℝ} {history : List (Observation ℝ)} (h : Steady v history)
include h

theorem isSteady_forecast {b : Forecast.Basis ℝ} {policy : ForecastPolicy ℝ} {today : Day}
    {horizon : Int} {historyDays : Option Int}
    (hb : b.Holds policy today history horizon historyDays) (hseries : b.series = history)
    (hfitted : b.fitted = quantities history) (now : Instant) (product location : String) :
    (b.forecast policy now product location none).IsSteady v history.length horizon.toNat := by
  have hdays := b.days_forecast policy now product location none
  have hbaseline : b.baseline = v := by
    obtain ⟨n, hn⟩ := Nat.exists_eq_succ_of_ne_zero h.length_ne_zero
    rw [Forecast.Basis.baseline, hfitted, h.quantities_eq, hn, List.replicate_succ']
    simp
  have htrend : (b.forecast policy now product location none).trend = 0 := by
    show Statistics.slope (quantities b.series) = 0
    rw [hseries, h.quantities_eq, Statistics.slope_replicate]
  have hvariance : (b.forecast policy now product location none).variance = 0 := by
    show Statistics.variance (quantities b.series) = 0
    rw [hseries, h.quantities_eq, Statistics.variance_replicate]
  have hseason (m : Month) : (b.forecast policy now product location none).seasonality.get m = 1 := by
    rw [b.season_forecast_none, hseries, h.indexOf_seasonalIndex]
  refine ⟨?_, htrend, hvariance, hseason, ?_⟩
  · have hday (i : Nat) : ForecastDay.around (policy.confidenceZ * Scalar.sqrt 0)
        (dailyDemand v 0 1 i) = ⟨v, v, v⟩ := by
      show ForecastDay.around (policy.confidenceZ * √0) (dailyDemand v 0 1 i) = ⟨v, v, v⟩
      simp [ForecastDay.around, dailyDemand, h.nonneg]
    simp only [Forecast.dayByDay, hbaseline, htrend, hvariance, hseason, hday] at hdays
    rw [hdays, ← length_daysAhead? hb.ahead]
    exact List.mapIdx_eq_replicate_iff.2 fun _ _ => rfl
  · have hscored := hb.fit
    rw [hseries, hfitted, h.quantities_eq, List.drop_replicate, List.dropLast_replicate] at hscored
    show fitAccuracy b.fit = _
    rw [fitAccuracy_of_fitError_self hscored]
    refine if_congr ?_ rfl rfl
    simp only [List.mem_replicate]
    constructor
    · rintro ⟨x, ⟨hlength, rfl⟩, hne⟩
      exact ⟨by omega, h.nonneg.lt_of_ne' hne⟩
    · rintro ⟨hlength, hpos⟩
      exact ⟨v, ⟨by omega, rfl⟩, hpos.ne'⟩

/-- **A forecast of steady demand** is steady. -/
theorem exists_forecast {policy : ForecastPolicy ℝ} (hfill : policy.fillGaps = false)
    {now : Instant} {horizon : Int} {historyDays : Option Int}
    (hfeasible : Forecast.Feasible policy now.day history horizon historyDays)
    (product location : String) :
    ∃ f, Forecast.ofHistory policy now history horizon product location none historyDays = .ok f
      ∧ f.IsSteady v history.length horizon.toNat := by
  obtain ⟨b, hb⟩ := Forecast.Basis.exists_holds_iff.2 hfeasible
  have hseries : b.series = history := hb.series_eq hfill
  have hfitted : b.fitted = quantities history := by
    have hf := hb.fitted
    rw [hseries, h.quantities_eq, ForecastPolicy.fit_replicate hfeasible.onePlace] at hf
    rw [← Except.ok.inj hf, h.quantities_eq]
  exact ⟨_, Forecast.ofHistory_eq_ok_iff.2 ⟨b, hb, rfl⟩,
    h.isSteady_forecast hb hseries hfitted now product location⟩

/-- **A plan for steady demand** keeps no safety stock, whatever the service level. -/
theorem exists_plan (hv : 0 < v) {p : Parameters ℝ} (ho : 0 < p.orderingCost)
    (hh : 0 < p.holdingCostRate) (hl : 0 ≤ p.leadTimeDays) (policy : OptimizerPolicy ℝ)
    (product location : String) (now : Instant) :
    ∃ plan, StockingPlan.ofHistory history p policy product location now = .ok plan
      ∧ plan.safetyStock = 0 ∧ plan.reorderPoint = v * p.leadTimeDays := by
  obtain ⟨o, hmem⟩ := List.exists_mem_of_ne_nil history h.nonempty
  have hdemand : ∃ o ∈ history, 0 < o.quantity := ⟨o, hmem, by rwa [h.quantity o hmem]⟩
  obtain ⟨plan, hplan⟩ : ∃ plan, StockingPlan.ofHistory history p policy product location now
      = .ok plan := StockingPlan.exists_ofHistory_iff.2 ⟨hdemand, ho, hh, hl⟩
  have hmade := StockingPlan.made hplan
  have hdeviation : plan.demandDeviation = 0 := by
    rw [hmade.deviation, h.quantities_eq, Statistics.variance_replicate]
    exact Real.sqrt_zero
  have hsafety : plan.safetyStock = 0 := by
    rw [hmade.safetyStock, hdeviation, mul_zero, zero_mul, Scalar.max_real, max_self]
  refine ⟨plan, hplan, hsafety, ?_⟩
  rw [hmade.reorderPoint, hsafety, add_zero, hmade.average, h.quantities_eq,
    Statistics.mean_replicate v h.length_ne_zero]

end Steady

/-- What analyses say of stock that is used up by one quantity a day. -/
structure Outlook.UsesUp (outlook : Outlook ℝ) (v : ℝ) (horizon : Nat) (stock : ℝ)
    (policy : RiskPolicy ℝ) (now : Instant) : Prop where
  analysed : policy.probabilityMode = .binary ∨ (∀ i, 1 ≤ policy.checkpoints.day i) →
    ∃ r, outlook.risk stock policy now = .ok r
  /-- It runs out on the day after the last one that it covers in full, if that is forecast. -/
  day : ∀ r, outlook.risk stock policy now = .ok r → r.daysUntilStockout
    = if 0 < v ∧ ⌊stock / v⌋₊ + 1 ≤ horizon then some (⌊stock / v⌋₊ + 1) else none

theorem Forecast.IsSteady.usesUp {f : Forecast ℝ} {v : ℝ} {observations horizon : Nat}
    (h : f.IsSteady v observations horizon) (hv : 0 ≤ v) (hone : 1 ≤ horizon) {stock : ℝ}
    (hs : 0 ≤ stock) (policy : RiskPolicy ℝ) (now : Instant) :
    f.outlook.UsesUp v horizon stock policy now := by
  have hlength : 1 ≤ f.outlook.daily.length := by
    show 1 ≤ f.daily.length
    rwa [h.daily_eq, List.length_replicate]
  have hvariance : f.outlook.variance = 0 := h.variance
  constructor
  · intro hdays
    refine Outlook.exists_risk_iff.2 ⟨not_lt.2 hs, fun i => ?_, ?_⟩
    · refine Outlook.exists_probabilityBy hlength (fun k => ?_) (hdays.imp_right fun hday => hday i)
      rw [hvariance, mul_zero]
      exact lt_irrefl 0
    · exact exists_demandReading_iff.2 fun _ => not_lt.2 hvariance.ge
  · intro r hr
    rw [(Outlook.risk_eq_ok_iff.1 hr).2.daysUntilStockout]
    show stockoutDay stock f.daily = _
    rw [h.daily_eq, stockoutDay_replicate hs hv]

/-- **Steady demand stays steady** through the whole chain: the forecast of one quantity is that
quantity on every day, stock runs out on the day after the last one that it covers in full, and a plan
orders for the lead time alone. -/
theorem Steady.staysSteady {v : ℝ} {history : List (Observation ℝ)} (h : Steady v history)
    {policy : ForecastPolicy ℝ} (hfill : policy.fillGaps = false) {now : Instant} {horizon : Int}
    {historyDays : Option Int}
    (hfeasible : Forecast.Feasible policy now.day history horizon historyDays)
    (product location : String) :
    (∃ f, Forecast.ofHistory policy now history horizon product location none historyDays = .ok f
      ∧ f.IsSteady v history.length horizon.toNat
      ∧ ∀ stock, 0 ≤ stock → ∀ (riskPolicy : RiskPolicy ℝ) (moment : Instant),
        f.outlook.UsesUp v horizon.toNat stock riskPolicy moment)
    ∧ (0 < v → ∀ p : Parameters ℝ, 0 < p.orderingCost → 0 < p.holdingCostRate →
        0 ≤ p.leadTimeDays → ∀ (optimizer : OptimizerPolicy ℝ) (moment : Instant),
        ∃ plan, StockingPlan.ofHistory history p optimizer product location moment = .ok plan
          ∧ plan.safetyStock = 0 ∧ plan.reorderPoint = v * p.leadTimeDays) := by
  constructor
  · obtain ⟨f, hf, hsteady⟩ := h.exists_forecast hfill hfeasible product location
    have hone : 1 ≤ horizon.toNat := by
      have := hfeasible.oneDay
      omega
    exact ⟨f, hf, hsteady, fun stock hs riskPolicy moment =>
      hsteady.usesUp h.nonneg hone hs riskPolicy moment⟩
  · exact fun hv p ho hh hl optimizer moment =>
      h.exists_plan hv ho hh hl optimizer product location moment

/-- A bolt was sold on each of two days. -/
noncomputable def boltADay : List (Observation ℝ) :=
  [boltSale, { boltSale with day := boltDepot.now.day }]

/-- Three bolts last for three days of a forecast of four, but not for the fourth. -/
theorem boltADay_staysSteady :
    ∃ f r plan, Forecast.ofHistory {} boltDepot.now boltADay 4 "bolt" "depot" none none = .ok f
      ∧ f.daily = [1, 1, 1, 1] ∧ f.accuracy = 1
      ∧ f.outlook.risk 3 {} boltDepot.now = .ok r ∧ r.daysUntilStockout = some 4
      ∧ StockingPlan.ofHistory boltADay .default {} "bolt" "depot" boltDepot.now = .ok plan
      ∧ plan.safetyStock = 0 ∧ plan.reorderPoint = 7 := by
  have h : Steady 1 boltADay := ⟨by simp [boltADay], by simp [boltADay, boltSale]⟩
  have hfeasible : Forecast.Feasible ({} : ForecastPolicy ℝ) boltDepot.now.day boltADay 4 none :=
    ⟨h.nonempty, by decide, fun _ => by decide, ⟨january 13, rfl⟩, fun _ hd => by cases hd⟩
  obtain ⟨⟨f, hf, hsteady, huses⟩, hplan⟩ := h.staysSteady rfl hfeasible "bolt" "depot"
  have hthree := huses 3 (by norm_num) {} boltDepot.now
  obtain ⟨r, hr⟩ := hthree.analysed (.inl rfl)
  have hordering : 0 < (Parameters.default : Parameters ℝ).orderingCost := by
    norm_num [Parameters.default]
  have hholding : 0 < (Parameters.default : Parameters ℝ).holdingCostRate := by
    norm_num [Parameters.default]
  have hlead : (Parameters.default : Parameters ℝ).leadTimeDays = 7 := by
    norm_num [Parameters.default]
  obtain ⟨plan, hplan, hsafety, hreorder⟩ :=
    hplan one_pos .default hordering hholding (by norm_num [hlead]) {} boltDepot.now
  refine ⟨f, r, plan, hf, ?_, ?_, hr, ?_, hplan, hsafety, ?_⟩
  · rw [hsteady.daily_eq]
    rfl
  · rw [hsteady.accuracy]
    simp [boltADay]
  · rw [hthree.day r hr]
    norm_num
  · rw [hreorder, hlead, one_mul]

end Restock
