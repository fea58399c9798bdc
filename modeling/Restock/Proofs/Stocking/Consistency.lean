import Restock.Proofs.Arithmetic.Statistics
import Restock.Proofs.Demand.Lookback
import Restock.Proofs.Parameters.Domains
import Restock.Proofs.Planning.Outcomes
import Restock.Proofs.Stocking.Plan

/-!
# When there is a plan, and how its parts fit together

Parameters that were built leave a history two ways to be without a plan: it is empty, or all of it is
zero. Every other history has one, and the quantities and costs of that plan fit together as the single
operations would have them (`StockingPlan.Consistent`). Dates and order play no part: histories with
the same quantities have the same outcome (`StockingPlan.ofHistory_perm`).
-/

namespace Restock

open Observation

namespace StockingPlan

/-! ## The whole of a plan -/

/-- How the quantities and the costs of a plan fit together. -/
structure Consistent (history : List (Observation ℝ)) (p : Parameters ℝ)
    (policy : OptimizerPolicy ℝ) (plan : StockingPlan ℝ) : Prop where
  average : plan.averageDailyDemand = Scalar.mean (quantities history)
  leadTimeDays : plan.leadTimeDays = p.leadTimeDays
  safetyStock_nonneg : 0 ≤ plan.safetyStock
  safetyStock_lt : plan.safetyStock < plan.reorderPoint
  reorderPoint_lt : plan.reorderPoint < plan.maxStock
  maxStock : plan.maxStock = plan.reorderPoint + plan.orderQuantity
  /-- Demand of the lead time plus safety stock is positive, so the reorder point is not cut off. -/
  reorderPoint : plan.reorderPoint
      = plan.averageDailyDemand * plan.leadTimeDays + plan.safetyStock
    ∧ plan.reorderPoint
      = Restock.reorderPoint plan.averageDailyDemand plan.leadTimeDays plan.safetyStock
  orderQuantity : economicOrderQuantity (365 * plan.averageDailyDemand) p.orderingCost
    p.holdingCostRate = .ok plan.orderQuantity
  costs_nonneg : 0 ≤ plan.holdingCost ∧ 0 ≤ plan.orderingCost ∧ 0 ≤ plan.stockoutCost
  totalCost : plan.totalCost = plan.holdingCost + plan.orderingCost
  costInterval : 0 ≤ policy.costBand → plan.costLow ≤ plan.totalCost ∧ plan.totalCost ≤ plan.costHigh

theorem consistent_of_made {history : List (Observation ℝ)} {p : Parameters ℝ}
    {policy : OptimizerPolicy ℝ} {plan : StockingPlan ℝ} {entry : ℝ → Prop} (hp : p.InDomain entry)
    (h : plan.Made history p policy) (hl : plan.leadTimeDays = p.leadTimeDays) :
    plan.Consistent history p policy := by
  have hsafety := h.safetyStock_nonneg
  have hquantity := h.orderQuantity_pos
  have hlead : 0 < plan.averageDailyDemand * plan.leadTimeDays := by
    rw [hl]
    exact mul_pos h.average_pos hp.leadTimeDays
  have hreorder : plan.reorderPoint
      = plan.averageDailyDemand * plan.leadTimeDays + plan.safetyStock := by
    rw [hl, h.reorderPoint]
  have hholding : 0 ≤ plan.holdingCost := by
    have hrate := hp.holdingCostRate.le
    rw [h.holdingCost, Scalar.ofNat_real]
    positivity
  have hordering : 0 ≤ plan.orderingCost := by
    have haverage := h.average_pos.le
    have hcost := hp.orderingCost.le
    have hdays := daysPerYear_pos.le
    rw [h.orderingCost_eq]
    positivity
  have htotal : 0 ≤ plan.totalCost := by
    rw [h.totalCost]
    exact add_nonneg hholding hordering
  exact
    { average := h.average
      leadTimeDays := hl
      safetyStock_nonneg := hsafety
      safetyStock_lt := by
        rw [hreorder]
        exact lt_add_of_pos_left _ hlead
      reorderPoint_lt := by
        rw [h.maxStock]
        exact lt_add_of_pos_right _ hquantity
      maxStock := h.maxStock
      reorderPoint := by
        refine ⟨hreorder, ?_⟩
        rw [Restock.reorderPoint, Scalar.max_real, ← hreorder, max_eq_right]
        rw [hreorder]
        exact add_nonneg hlead.le hsafety
      orderQuantity := by
        have hq := h.orderQuantity
        rwa [daysPerYear, Scalar.ofNat_real, mul_comm] at hq
      costs_nonneg := ⟨hholding, hordering, expectedStockoutCost_nonneg h.stockoutCost⟩
      totalCost := h.totalCost
      costInterval := by
        intro hband
        rw [h.costLow, h.costHigh]
        exact ⟨mul_le_of_le_one_right htotal (sub_le_self 1 hband),
          le_mul_of_one_le_right htotal (le_add_of_nonneg_right hband)⟩ }

/-! ## Outcomes -/

/-- There is no order quantity for no demand. -/
theorem ofHistory_of_idle {history : List (Observation ℝ)} (p : Parameters ℝ)
    (policy : OptimizerPolicy ℝ) (product location : String) (now : Instant) (hne : history ≠ [])
    (hidle : ∀ o ∈ history, o.quantity = 0) :
    ofHistory history p policy product location now
      = .error (.invalidParameter (.lotSize 0 p.orderingCost p.holdingCostRate)) := by
  unfold ofHistory
  simp only [List.isEmpty_eq_false_iff.2 hne, Bool.false_eq_true, if_false,
    mean_quantities_of_idle hidle, zero_mul]
  rw [economicOrderQuantity, if_pos (.inl (le_refl 0))]
  rfl

/-- **Dates and order do not count**: what is planned is decided by the quantities, however they are
arranged. -/
theorem ofHistory_perm {history history' : List (Observation ℝ)}
    (h : (quantities history').Perm (quantities history)) (p : Parameters ℝ)
    (policy : OptimizerPolicy ℝ) (product location : String) (now : Instant) :
    ofHistory history' p policy product location now
      = ofHistory history p policy product location now := by
  have hempty : history'.isEmpty = history.isEmpty := by
    have hq := h.isEmpty_eq
    rwa [quantities, quantities, List.isEmpty_map, List.isEmpty_map] at hq
  -- of the quantities no more is read than their mean and their variance
  simp only [ofHistory, hempty, Scalar.mean_perm h, Statistics.variance_perm h]

/-- A history is empty, or idle, or it has a plan. -/
theorem ofHistory_cases {p : Parameters ℝ} {entry : ℝ → Prop} (hp : p.InDomain entry)
    (history : List (Observation ℝ)) (policy : OptimizerPolicy ℝ) (product location : String)
    (now : Instant) :
    let outcome := ofHistory history p policy product location now
    (history = [] ∧ outcome = .error (.insufficientData .stocking product location))
      ∨ (history ≠ [] ∧ (∀ o ∈ history, o.quantity = 0)
        ∧ outcome = .error (.invalidParameter (.lotSize 0 p.orderingCost p.holdingCostRate)))
      ∨ (history ≠ [] ∧ (¬ ∀ o ∈ history, o.quantity = 0)
        ∧ ∃ plan, outcome = .ok plan ∧ plan.Consistent history p policy) := by
  intro outcome
  rcases eq_or_ne history [] with rfl | hne
  · exact .inl ⟨rfl, rfl⟩
  refine .inr ?_
  by_cases hidle : ∀ o ∈ history, o.quantity = 0
  · exact .inl ⟨hne, hidle, ofHistory_of_idle p policy product location now hne hidle⟩
  · refine .inr ⟨hne, hidle, ?_⟩
    obtain ⟨plan, h⟩ : ∃ plan, outcome = .ok plan :=
      exists_ofHistory_iff.2 ⟨exists_demand_iff.2 hidle, hp.orderingCost, hp.holdingCostRate,
        hp.leadTimeDays.le⟩
    exact ⟨plan, h, consistent_of_made hp (made h) (labels_of_ofHistory h).2⟩

/-- **The outcome of planning.** With parameters that were built, there is too little data exactly when
the history is empty, and no order quantity exactly when it is not but all of it is zero. Otherwise
there is a plan, and it is consistent. The outcome is the same for any other history with these
quantities. -/
theorem ofHistory_outcome {given : List (String × Raw ℝ)} {p : Parameters ℝ}
    (hp : Parameters.build given = .ok p) (history : List (Observation ℝ))
    (policy : OptimizerPolicy ℝ) (product location : String) (now : Instant) :
    let outcome (history : List (Observation ℝ)) := ofHistory history p policy product location now
    ((∃ purpose product location,
        outcome history = .error (.insufficientData purpose product location)) ↔ history = [])
      ∧ ((∃ fault, outcome history = .error (.invalidParameter fault)) ↔
        history ≠ [] ∧ ∀ o ∈ history, o.quantity = 0)
      ∧ (history ≠ [] → (¬ ∀ o ∈ history, o.quantity = 0) →
        ∃ plan, outcome history = .ok plan ∧ plan.Consistent history p policy)
      ∧ ∀ history', (quantities history').Perm (quantities history) →
        outcome history' = outcome history := by
  intro outcome
  have hperm : ∀ history', (quantities history').Perm (quantities history) →
      outcome history' = outcome history :=
    fun history' h => ofHistory_perm h p policy product location now
  obtain ⟨hnil, h⟩ | ⟨hne, hidle, h⟩ | ⟨hne, hidle, plan, h, hc⟩ :=
    ofHistory_cases (.of_build_real hp) history policy product location now
  · refine ⟨iff_of_true ⟨_, _, _, h⟩ hnil, iff_of_false ?_ fun hi => hi.1 hnil,
      fun hne => absurd hnil hne, hperm⟩
    rintro ⟨_, hf⟩
    cases h.symm.trans hf
  · refine ⟨iff_of_false ?_ hne, iff_of_true ⟨_, h⟩ ⟨hne, hidle⟩, fun _ hi => absurd hidle hi, hperm⟩
    rintro ⟨_, _, _, hf⟩
    cases h.symm.trans hf
  · refine ⟨iff_of_false ?_ hne, iff_of_false ?_ fun hi => hidle hi.2, fun _ _ => ⟨plan, h, hc⟩,
      hperm⟩
    · rintro ⟨_, _, _, hf⟩
      cases h.symm.trans hf
    · rintro ⟨_, hf⟩
      cases h.symm.trans hf

/-! ## A sale and a quiet day -/

/-- An order costs 730; holding a unit for a year costs one. -/
noncomputable def dearOrders : Parameters ℝ :=
  { Parameters.default with orderingCost := 730, holdingCostRate := 1 }

theorem build_dearOrders :
    Parameters.build [(Field.orderingCost.key, .number 730), (Field.holdingCostRate.key, .number 1)]
      = .ok dearOrders := by
  have hcost : Domain.positive.Admits (730 : ℝ) := by
    show (0 : ℝ) < 730
    norm_num
  have hrate : Domain.positive.Admits (1 : ℝ) := zero_lt_one
  exact Parameters.build_eq_ok_iff.2 ⟨rfl, readNumber_of_admits rfl hrate,
    readNumber_of_admits rfl hcost, rfl, rfl, rfl, rfl, rfl, rfl, rfl, rfl⟩

/-- There is a plan as long as something was sold. -/
theorem exists_ofHistory_dearOrders {history : List (Observation ℝ)}
    (h : ∃ o ∈ history, 0 < o.quantity) :
    ∃ plan, ofHistory history dearOrders {} "bolt" "depot" boltDepot.now = .ok plan := by
  have hp := Parameters.InDomain.of_build_real build_dearOrders
  exact exists_ofHistory_iff.2 ⟨h, hp.orderingCost, hp.holdingCostRate, hp.leadTimeDays.le⟩

/-- The depot sells nothing today. -/
noncomputable def quietDay : Observation ℝ := ⟨boltDepot.now.day, 0, rfl, lt_irrefl 0⟩

/-- There is a plan for the two days, and it is the same the other way round. -/
theorem ofHistory_saleAndQuietDay :
    ∃ plan, ofHistory [boltSale, quietDay] dearOrders {} "bolt" "depot" boltDepot.now = .ok plan
      ∧ plan.Consistent [boltSale, quietDay] dearOrders {}
      ∧ ofHistory [quietDay, boltSale] dearOrders {} "bolt" "depot" boltDepot.now = .ok plan := by
  obtain ⟨_, _, hplan, hperm⟩ := ofHistory_outcome build_dearOrders [boltSale, quietDay] {}
    "bolt" "depot" boltDepot.now
  have hsold : ¬ ∀ o ∈ [boltSale, quietDay], o.quantity = 0 := fun h =>
    one_ne_zero (h boltSale List.mem_cons_self)
  obtain ⟨plan, h, hc⟩ := hplan (List.cons_ne_nil _ _) hsold
  exact ⟨plan, h, hc, (hperm [quietDay, boltSale] (List.Perm.swap _ _ _)).trans h⟩

end StockingPlan

end Restock
