import Restock.Proofs.Demand.DailySums
import Restock.Stocking

/-!
# What a stocking plan holds

`StockingPlan.made` says what each quantity and each cost of a plan is, in any number system;
`StockingPlan.exists_ofHistory_iff` when there is a plan, in exact arithmetic: exactly when there is
demand to plan for and the costs and the lead time are in their domain.
-/

namespace Restock

open Observation

section
variable {α : Type} [Scalar α]

theorem economicOrderQuantity_eq_ok_iff {annual orderingCost holdingRate quantity : α} :
    economicOrderQuantity annual orderingCost holdingRate = .ok quantity
      ↔ ¬ (annual ≤ 0 ∨ orderingCost ≤ 0 ∨ holdingRate ≤ 0)
        ∧ quantity = Scalar.sqrt (Scalar.ofNat 2 * annual * orderingCost / holdingRate) := by
  unfold economicOrderQuantity
  split
  · next h => simp [h]
  · next h => simp [h, eq_comm]

end

variable {α : Type} [Gaussian α]

/-- What a plan made from a history holds. -/
structure StockingPlan.Made (history : List (Observation α)) (p : Parameters α)
    (policy : OptimizerPolicy α) (plan : StockingPlan α) : Prop where
  average : plan.averageDailyDemand = Scalar.mean (quantities history)
  deviation : plan.demandDeviation = Scalar.sqrt (Statistics.variance (quantities history))
  orderQuantity : economicOrderQuantity (plan.averageDailyDemand * daysPerYear) p.orderingCost
    p.holdingCostRate = .ok plan.orderQuantity
  safetyStock : plan.safetyStock = Scalar.max 0
    (Normal.quantile p.targetServiceLevel * plan.demandDeviation * Scalar.sqrt p.leadTimeDays)
  reorderPoint :
    plan.reorderPoint = plan.averageDailyDemand * p.leadTimeDays + plan.safetyStock
  maxStock : plan.maxStock = plan.reorderPoint + plan.orderQuantity
  holdingCost : plan.holdingCost
    = (plan.orderQuantity / Scalar.ofNat 2 + plan.safetyStock) * p.holdingCostRate
  orderingCost : (Scalar.quotient? (plan.averageDailyDemand * daysPerYear) plan.orderQuantity).map
    (· * p.orderingCost) = .ok plan.orderingCost
  totalCost : plan.totalCost = plan.holdingCost + plan.orderingCost
  stockoutCost : expectedStockoutCost (plan.averageDailyDemand * daysPerYear) plan.orderQuantity
    plan.demandDeviation p.leadTimeDays plan.safetyStock p.stockoutCost = .ok plan.stockoutCost
  costLow : plan.costLow = plan.totalCost * (1 - policy.costBand)
  costHigh : plan.costHigh = plan.totalCost * (1 + policy.costBand)

namespace StockingPlan

theorem made {history : List (Observation α)} {p : Parameters α} {policy : OptimizerPolicy α}
    {product location : String} {now : Instant} {plan : StockingPlan α}
    (h : ofHistory history p policy product location now = .ok plan) :
    plan.Made history p policy := by
  unfold ofHistory at h
  split at h
  · cases h
  · obtain ⟨quantity, hq, h⟩ := Planned.bind_eq_ok.1 h
    obtain ⟨cycles, hc, h⟩ := Planned.bind_eq_ok.1 h
    obtain ⟨stockout, hs, h⟩ := Planned.bind_eq_ok.1 h
    cases h
    refine ⟨rfl, rfl, hq, rfl, rfl, rfl, rfl, ?_, rfl, hs, rfl, rfl⟩
    show (Scalar.quotient? _ quantity).map _ = _
    rw [hc]
    rfl

end StockingPlan

theorem exists_expectedStockoutCost_iff {annual quantity deviation leadTime safety penalty : α} :
    (∃ cost, expectedStockoutCost annual quantity deviation leadTime safety penalty = .ok cost)
      ↔ ¬ leadTime < 0 := by
  rw [← Scalar.exists_root?_iff]
  constructor
  · rintro ⟨cost, h⟩
    obtain ⟨root, hr, _⟩ := Planned.bind_eq_ok.1 h
    exact ⟨root, hr⟩
  · rintro ⟨root, hr⟩
    unfold expectedStockoutCost
    rw [hr, Planned.ok_bind]
    dsimp only
    split
    · exact ⟨0, rfl⟩
    · exact ⟨_, rfl⟩

/-! ## Exact arithmetic -/

theorem daysPerYear_pos : (0 : ℝ) < daysPerYear := by
  rw [daysPerYear, Scalar.ofNat_real]
  norm_num

theorem exists_economicOrderQuantity_iff {annual orderingCost holdingRate : ℝ} :
    (∃ quantity, economicOrderQuantity annual orderingCost holdingRate = .ok quantity)
      ↔ 0 < annual ∧ 0 < orderingCost ∧ 0 < holdingRate := by
  simp only [economicOrderQuantity_eq_ok_iff, exists_and_left, exists_eq, and_true, not_or, not_le]

theorem economicOrderQuantity_pos {annual orderingCost holdingRate quantity : ℝ}
    (h : economicOrderQuantity annual orderingCost holdingRate = .ok quantity) : 0 < quantity := by
  obtain ⟨ha, ho, hh⟩ := exists_economicOrderQuantity_iff.1 ⟨quantity, h⟩
  obtain ⟨_, rfl⟩ := economicOrderQuantity_eq_ok_iff.1 h
  rw [Scalar.ofNat_real]
  exact Real.sqrt_pos.2 (by positivity)

theorem expectedStockoutCost_nonneg {annual quantity deviation leadTime safety penalty cost : ℝ}
    (h : expectedStockoutCost annual quantity deviation leadTime safety penalty = .ok cost) :
    0 ≤ cost := by
  obtain ⟨root, _, h⟩ := Planned.bind_eq_ok.1 h
  dsimp only at h
  split at h
  · rw [← Except.ok.inj h]
  · rw [← Except.ok.inj h, Scalar.max_real]
    exact le_max_left _ _

theorem Scalar.quotient?_of_ne_zero (a : ℝ) {b : ℝ} (hb : b ≠ 0) :
    Scalar.quotient? a b = .ok (a / b) :=
  if_neg (by simpa using hb)

namespace StockingPlan

section
variable {history : List (Observation ℝ)} {p : Parameters ℝ} {policy : OptimizerPolicy ℝ}
  {plan : StockingPlan ℝ} (h : plan.Made history p policy)
include h

theorem Made.orderQuantity_pos : 0 < plan.orderQuantity := economicOrderQuantity_pos h.orderQuantity

theorem Made.average_pos : 0 < plan.averageDailyDemand := by
  obtain ⟨ha, _, _⟩ := exists_economicOrderQuantity_iff.1 ⟨_, h.orderQuantity⟩
  exact (pos_iff_pos_of_mul_pos ha).2 daysPerYear_pos

theorem Made.safetyStock_nonneg : 0 ≤ plan.safetyStock := by
  rw [h.safetyStock, Scalar.max_real]
  exact le_max_left _ _

theorem Made.orderingCost_eq : plan.orderingCost
    = plan.averageDailyDemand * daysPerYear / plan.orderQuantity * p.orderingCost := by
  have hc := h.orderingCost
  rw [Scalar.quotient?_of_ne_zero _ h.orderQuantity_pos.ne'] at hc
  exact (Except.ok.inj hc).symm

end

end StockingPlan

/-- **A plan is made** exactly when there is demand to plan for and the costs and the lead time are
in their domain. -/
theorem StockingPlan.exists_ofHistory_iff {history : List (Observation ℝ)} {p : Parameters ℝ}
    {policy : OptimizerPolicy ℝ} {product location : String} {now : Instant} :
    (∃ plan, ofHistory history p policy product location now = .ok plan)
      ↔ (∃ o ∈ history, 0 < o.quantity)
        ∧ 0 < p.orderingCost ∧ 0 < p.holdingCostRate ∧ 0 ≤ p.leadTimeDays := by
  rw [← mean_quantities_pos_iff, ← not_lt (a := p.leadTimeDays)]
  constructor
  · rintro ⟨plan, h⟩
    have h := made h
    obtain ⟨_, ho, hh⟩ := exists_economicOrderQuantity_iff.1 ⟨_, h.orderQuantity⟩
    refine ⟨?_, ho, hh, exists_expectedStockoutCost_iff.1 ⟨_, h.stockoutCost⟩⟩
    rw [← h.average]
    exact h.average_pos
  · rintro ⟨hm, ho, hh, hl⟩
    have hne : history.isEmpty = false := by
      cases history with
      | nil => simp [quantities] at hm
      | cons o history => rfl
    obtain ⟨quantity, hq⟩ := exists_economicOrderQuantity_iff.2
      ⟨mul_pos hm daysPerYear_pos, ho, hh⟩
    unfold ofHistory
    simp only [hne, Bool.false_eq_true, if_false, hq, Planned.ok_bind,
      Scalar.quotient?_of_ne_zero _ (economicOrderQuantity_pos hq).ne']
    exact Planned.exists_bind_ok_iff.2 (exists_expectedStockoutCost_iff.2 hl)

end Restock
