import Restock.Proofs.Forecast.Recomputed
import Restock.Proofs.Risk.Comparison
import Restock.Proofs.Stocking.Consistency
import Restock.Proofs.Units.Risk

/-!
# Plans in other units

Whatever unit demand and stock are counted in, the same is planned: forecasts and risks as in
`Restock.Proofs.Units.Forecast` and `Restock.Proofs.Units.Risk`, and here the stocking parameters.
The costs of a plan are not converted with its demand: holding one unit costs the same, however much
it is. So the order quantity, which balances the cost of holding against that of ordering, is
multiplied by the root of the factor only.
-/

namespace Restock

open Observation

namespace Conversion

variable (u : Conversion)

/-- The quantities of one plan are those of another, in other units. -/
structure Plans (plan plan' : StockingPlan ℝ) : Prop where
  averageDailyDemand : plan'.averageDailyDemand = u.factor * plan.averageDailyDemand
  demandDeviation : plan'.demandDeviation = u.factor * plan.demandDeviation
  safetyStock : plan'.safetyStock = u.factor * plan.safetyStock
  reorderPoint : plan'.reorderPoint = u.factor * plan.reorderPoint
  orderQuantity : plan'.orderQuantity = Real.sqrt u.factor * plan.orderQuantity

theorem exists_stockingPlan_history_iff {history : List (Observation ℝ)} {p : Parameters ℝ}
    {policy : OptimizerPolicy ℝ} {product location : String} {now : Instant} :
    (∃ plan, StockingPlan.ofHistory (u.history history) p policy product location now = .ok plan)
      ↔ ∃ plan, StockingPlan.ofHistory history p policy product location now = .ok plan := by
  rw [StockingPlan.exists_ofHistory_iff, StockingPlan.exists_ofHistory_iff]
  have h : (∃ o ∈ u.history history, 0 < o.quantity) ↔ ∃ o ∈ history, 0 < o.quantity := by
    rw [← mean_quantities_pos_iff, quantities_history, Scalar.mean_map_mul,
      mul_pos_iff_of_pos_left u.pos, mean_quantities_pos_iff]
  rw [h]

theorem plans_of_made {history : List (Observation ℝ)} {p : Parameters ℝ}
    {policy : OptimizerPolicy ℝ} {plan plan' : StockingPlan ℝ} (h : plan.Made history p policy)
    (h' : plan'.Made (u.history history) p policy) : u.Plans plan plan' := by
  have average : plan'.averageDailyDemand = u.factor * plan.averageDailyDemand := by
    rw [h'.average, quantities_history, Scalar.mean_map_mul, h.average]
  have deviation : plan'.demandDeviation = u.factor * plan.demandDeviation := by
    rw [h'.deviation, quantities_history, Statistics.variance_map_mul, Scalar.sqrt_sq_mul u.pos,
      h.deviation]
  have safety : plan'.safetyStock = u.factor * plan.safetyStock := by
    rw [h'.safetyStock, h.safetyStock, deviation, Scalar.max_real, Scalar.max_real,
      mul_max_of_nonneg _ _ u.pos.le, mul_zero]
    congr 1
    ring
  refine ⟨average, deviation, safety, ?_, ?_⟩
  · rw [h'.reorderPoint, h.reorderPoint, average, safety]
    ring
  · have hq := (economicOrderQuantity_eq_ok_iff.1 h.orderQuantity).2
    have hq' := (economicOrderQuantity_eq_ok_iff.1 h'.orderQuantity).2
    -- the annual demand is under the root, and is all there that has a unit
    rw [hq, hq', average]
    show Real.sqrt _ = Real.sqrt u.factor * Real.sqrt _
    rw [← Real.sqrt_mul u.pos.le]
    congr 1
    ring

/-- What is planned does not depend on the unit. -/
structure KeepsPlans : Prop where
  /-- The forecast from a history in other units is its forecast in these units. It has the demand
  of each day, its interval and the trend multiplied by the factor and the variance by its square;
  seasonality and accuracy are as they were. -/
  forecast : ∀ (policy : ForecastPolicy ℝ) (now : Instant) (history : List (Observation ℝ))
    (horizon : Int) (product location : String) (p : Option (Parameters ℝ))
    (historyDays : Option Int),
    Forecast.ofHistory policy now (u.history history) horizon product location p historyDays
      = (Forecast.ofHistory policy now history horizon product location p historyDays).map
          u.forecast
  /-- An analysis of stock against a forecast, both in other units, has the same day of running out,
  the same level and the same probabilities; stock and trend apart, it is the same analysis. -/
  risk : ∀ (f : Forecast ℝ) (stock : ℝ) (policy : RiskPolicy ℝ) (now : Instant)
    (r' : RiskAnalysis ℝ),
    (u.forecast f).outlook.risk (u.factor * stock) policy now = .ok r'
      ↔ ∃ r, f.outlook.risk stock policy now = .ok r ∧ r' = u.analysis f.outlook r
  /-- There is a stocking plan in other units exactly when there is one, that is when there is
  demand and the costs and the lead time are in their domain. -/
  planned : ∀ (history : List (Observation ℝ)) (p : Parameters ℝ) (policy : OptimizerPolicy ℝ)
    (product location : String) (now : Instant),
    ((∃ plan, StockingPlan.ofHistory history p policy product location now = .ok plan)
      ↔ (∃ o ∈ history, 0 < o.quantity)
        ∧ 0 < p.orderingCost ∧ 0 < p.holdingCostRate ∧ 0 ≤ p.leadTimeDays)
    ∧ ((∃ plan', StockingPlan.ofHistory (u.history history) p policy product location now
          = .ok plan')
      ↔ ∃ plan, StockingPlan.ofHistory history p policy product location now = .ok plan)
  /-- Its average demand, its deviation, its safety stock and its reorder point are multiplied by
  the factor, its order quantity by the root of it. -/
  stocking : ∀ (history : List (Observation ℝ)) (p : Parameters ℝ) (policy : OptimizerPolicy ℝ)
    (product location : String) (now : Instant) (plan plan' : StockingPlan ℝ),
    StockingPlan.ofHistory history p policy product location now = .ok plan →
    StockingPlan.ofHistory (u.history history) p policy product location now = .ok plan' →
    u.Plans plan plan'

/-- **Planning does not depend on the unit of measure.** -/
theorem keepsPlans : u.KeepsPlans where
  forecast := u.ofHistory_history
  risk f stock policy now r' := by
    rw [outlook_forecast]
    exact u.risk_outlook f.outlook stock policy now r'
  planned _ _ _ _ _ _ :=
    ⟨StockingPlan.exists_ofHistory_iff, u.exists_stockingPlan_history_iff⟩
  stocking _ _ _ _ _ _ _ _ h h' := u.plans_of_made (StockingPlan.made h) (StockingPlan.made h')

/-! ## Dozens -/

open Forecast (risingSales lateFebruary)
open StockingPlan (dearOrders)

/-- A dozen makes twelve pieces. -/
noncomputable def dozen : Conversion := ⟨12, Nat.ofNat_pos⟩

/-- Sales of dozens are counted by the piece. They rise by twelve, five dozen in stock last as long as
sixty pieces do, and the order quantity is multiplied by the root of twelve. -/
theorem keepsPlans_dozen :
    let piecewise := dozen.history risingSales
    let normal : RiskPolicy ℝ := { probabilityMode := .normal }
    (∃ f f' r r',
      Forecast.ofHistory {} lateFebruary risingSales 2 "bolt" "depot" none none = .ok f
      ∧ Forecast.ofHistory {} lateFebruary piecewise 2 "bolt" "depot" none none = .ok f'
      ∧ f'.trend = 12 ∧ f'.variance = 144 ∧ f'.seasonality = f.seasonality
      ∧ f.outlook.risk 5 normal lateFebruary = .ok r
      ∧ f'.outlook.risk 60 normal lateFebruary = .ok r'
      ∧ r'.daysUntilStockout = r.daysUntilStockout ∧ r'.probabilities = r.probabilities)
    ∧ ∃ plan plan',
      StockingPlan.ofHistory risingSales dearOrders {} "bolt" "depot" lateFebruary = .ok plan
      ∧ StockingPlan.ofHistory piecewise dearOrders {} "bolt" "depot" lateFebruary = .ok plan'
      ∧ plan'.averageDailyDemand = 12 * plan.averageDailyDemand
      ∧ plan'.orderQuantity = √12 * plan.orderQuantity := by
  intro piecewise normal
  have hkeeps := dozen.keepsPlans
  constructor
  · obtain ⟨f, hf⟩ : ∃ f,
        Forecast.ofHistory {} lateFebruary risingSales 2 "bolt" "depot" none none = .ok f :=
      Forecast.exists_ofHistory_iff.2 Forecast.feasible_risingSales
    obtain ⟨htrend, hvariance, _⟩ := Forecast.shows_risingSales hf
    have hf' := hkeeps.forecast {} lateFebruary risingSales 2 "bolt" "depot" none none
    rw [hf] at hf'
    have hspread : 0 ≤ f.outlook.variance := zero_le_one.trans_eq hvariance.symm
    obtain ⟨r, hr⟩ : ∃ r, f.outlook.risk 5 normal lateFebruary = .ok r :=
      Outlook.exists_risk_of_variance_nonneg hspread (by decide) (by norm_num) _
    have hr' := (hkeeps.risk f 5 normal lateFebruary _).2 ⟨r, hr, rfl⟩
    have hsixty : dozen.factor * 5 = 60 := by norm_num [dozen]
    rw [hsixty] at hr'
    refine ⟨f, _, r, _, hf, hf', ?_, ?_, rfl, hr, hr', rfl, rfl⟩
    · show dozen.factor * f.trend = 12
      rw [htrend, mul_one]
      rfl
    · show dozen.factor ^ 2 * f.variance = 144
      rw [hvariance]
      norm_num [dozen]
  · have hsold : ∃ o ∈ risingSales, 0 < o.quantity := ⟨_, List.mem_cons_self, Nat.ofNat_pos⟩
    obtain ⟨hplanned, hconverted⟩ :=
      hkeeps.planned risingSales dearOrders {} "bolt" "depot" lateFebruary
    have hp := Parameters.InDomain.of_build_real StockingPlan.build_dearOrders
    obtain ⟨plan, h⟩ := hplanned.2 ⟨hsold, hp.orderingCost, hp.holdingCostRate, hp.leadTimeDays.le⟩
    obtain ⟨plan', h'⟩ := hconverted.2 ⟨plan, h⟩
    have hplans := hkeeps.stocking _ _ _ _ _ _ plan plan' h h'
    exact ⟨plan, plan', h, h', hplans.averageDailyDemand, hplans.orderQuantity⟩

end Conversion

end Restock
