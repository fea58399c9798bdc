import Restock.Proofs.Stocking.Consistency
import Restock.Replenishment

/-!
# Plans in whole units

A reorder rule cuts each quantity of its plan to whole units by itself (`ReorderRule.made`). No quantity of
a plan is negative, so what is cut off is always a part of one unit: the order of the quantities stays, and
a sum keeps within one unit of the sum of its parts. So a rule is as consistent as its plan
(`ReorderRule.followsPlan`).
-/

namespace Restock

open Observation

section
variable {α : Type} [Scalar α]

/-- What a rule made for a plan holds. -/
structure ReorderRule.Made (plan : StockingPlan α) (p : Parameters α) (rule : ReorderRule α) :
    Prop where
  product : rule.product = plan.product
  reorderPoint : Scalar.toInt? plan.reorderPoint = .ok rule.reorderPoint
  orderQuantity : Scalar.toInt? plan.orderQuantity = .ok rule.orderQuantity
  maxStock : Scalar.toInt? plan.maxStock = .ok rule.maxStock
  safetyStock : Scalar.toInt? plan.safetyStock = .ok rule.safetyStock
  minStock : rule.minStock = rule.safetyStock
  leadTimeDays : Scalar.toInt? (if plan.leadTimeDays == 0 then p.leadTimeDays else plan.leadTimeDays)
    = .ok rule.leadTimeDays
  automaticOrdering : rule.automaticOrdering = true
  active : rule.active = true

theorem ReorderRule.made {plan : StockingPlan α} {p : Parameters α} {review : Int}
    {rule : ReorderRule α} (h : ofPlan plan p review = .ok rule) : rule.Made plan p := by
  unfold ofPlan at h
  split at h
  · cases h
  · obtain ⟨reorderPoint, hr, h⟩ := Planned.bind_eq_ok.1 h
    obtain ⟨orderQuantity, hq, h⟩ := Planned.bind_eq_ok.1 h
    obtain ⟨maxStock, hm, h⟩ := Planned.bind_eq_ok.1 h
    obtain ⟨safetyStock, hs, h⟩ := Planned.bind_eq_ok.1 h
    obtain ⟨leadTimeDays, hl, h⟩ := Planned.bind_eq_ok.1 h
    cases h
    exact ⟨rfl, hr, hq, hm, hs, rfl, hl, rfl, rfl⟩

end

/-! ## Cutting to whole units -/

/-- The whole units of an amount: no more than it, and less than one unit below it. -/
structure WholeUnits (amount : ℝ) (units : Int) : Prop where
  le : units ≤ amount
  lt : amount - 1 < units

theorem Scalar.truncate_of_nonneg {x : ℝ} (h : 0 ≤ x) : Scalar.truncate x = ⌊x⌋ := if_pos h

theorem Scalar.toInt?_of_nonneg {x : ℝ} {n : Int} (h : 0 ≤ x) (hn : Scalar.toInt? x = .ok n) :
    n = ⌊x⌋ := by
  rw [(Scalar.toInt?_eq_ok_iff.1 hn).2, Scalar.truncate_of_nonneg h]

theorem WholeUnits.floor (x : ℝ) : WholeUnits x ⌊x⌋ := ⟨Int.floor_le x, Int.sub_one_lt_floor x⟩

namespace ReorderRule

theorem exists_ofPlan_real (plan : StockingPlan ℝ) (p : Parameters ℝ) {review : Int}
    (hr : 1 ≤ review) : ∃ rule, ofPlan plan p review = .ok rule := by
  unfold ofPlan
  rw [if_neg (not_lt.2 hr)]
  exact ⟨_, rfl⟩

/-- How a rule in whole units keeps to its plan. -/
structure FollowsPlan (plan : StockingPlan ℝ) (rule : ReorderRule ℝ) : Prop where
  safetyStock_nonneg : 0 ≤ rule.safetyStock
  minStock : rule.minStock = rule.safetyStock
  safetyStock_le : rule.safetyStock ≤ rule.reorderPoint
  reorderPoint_le : rule.reorderPoint ≤ rule.maxStock
  /-- An order at the reorder point fills the stock up to the most there should be, or to one unit
  less. -/
  fills : rule.reorderPoint + rule.orderQuantity ≤ rule.maxStock
    ∧ rule.maxStock ≤ rule.reorderPoint + rule.orderQuantity + 1
  safetyStock : WholeUnits plan.safetyStock rule.safetyStock
  reorderPoint : WholeUnits plan.reorderPoint rule.reorderPoint
  orderQuantity : WholeUnits plan.orderQuantity rule.orderQuantity
  maxStock : WholeUnits plan.maxStock rule.maxStock
  leadTimeDays : rule.leadTimeDays = Scalar.truncate plan.leadTimeDays

theorem followsPlan_of_made {history : List (Observation ℝ)} {p q : Parameters ℝ}
    {policy : OptimizerPolicy ℝ} {plan : StockingPlan ℝ} {rule : ReorderRule ℝ}
    (hplan : plan.Consistent history p policy) (hlead : 0 < plan.leadTimeDays)
    (hquantity : 0 < plan.orderQuantity) (h : rule.Made plan q) : rule.FollowsPlan plan := by
  have hreorder : 0 ≤ plan.reorderPoint := hplan.safetyStock_nonneg.trans hplan.safetyStock_lt.le
  have hmax : 0 ≤ plan.maxStock := hreorder.trans hplan.reorderPoint_lt.le
  have hs := Scalar.toInt?_of_nonneg hplan.safetyStock_nonneg h.safetyStock
  have hr := Scalar.toInt?_of_nonneg hreorder h.reorderPoint
  have hq := Scalar.toInt?_of_nonneg hquantity.le h.orderQuantity
  have hm := Scalar.toInt?_of_nonneg hmax h.maxStock
  have hl := h.leadTimeDays
  rw [if_neg (by simpa using hlead.ne')] at hl
  exact
    { safetyStock_nonneg := by
        rw [hs]
        exact Int.floor_nonneg.2 hplan.safetyStock_nonneg
      minStock := h.minStock
      safetyStock_le := by
        rw [hs, hr]
        exact Int.floor_mono hplan.safetyStock_lt.le
      reorderPoint_le := by
        rw [hr, hm]
        exact Int.floor_mono hplan.reorderPoint_lt.le
      fills := by
        rw [hr, hq, hm, hplan.maxStock]
        exact ⟨Int.le_floor_add _ _, sub_le_iff_le_add.1 (Int.le_floor_add_floor _ _)⟩
      safetyStock := hs ▸ .floor _
      reorderPoint := hr ▸ .floor _
      orderQuantity := hq ▸ .floor _
      maxStock := hm ▸ .floor _
      leadTimeDays := (Scalar.toInt?_eq_ok_iff.1 hl).2 }

/-- **Whole units keep a plan in order.** Every plan made with parameters that were built has a rule, for
any review period of a day or more and whatever parameters the rule is asked for with; and its whole units
are related as the quantities of the plan are. -/
theorem followsPlan {given : List (String × Raw ℝ)} {p : Parameters ℝ}
    (hp : Parameters.build given = .ok p) {history : List (Observation ℝ)}
    {policy : OptimizerPolicy ℝ} {product location : String} {now : Instant} {plan : StockingPlan ℝ}
    (h : StockingPlan.ofHistory history p policy product location now = .ok plan)
    (q : Parameters ℝ) {review : Int} (hr : 1 ≤ review) :
    ∃ rule, ofPlan plan q review = .ok rule ∧ rule.FollowsPlan plan := by
  have hdomain := Parameters.InDomain.of_build_real hp
  have hmade := StockingPlan.made h
  have hlead := (StockingPlan.labels_of_ofHistory h).2
  have hplan := StockingPlan.consistent_of_made hdomain hmade hlead
  obtain ⟨rule, hrule⟩ := exists_ofPlan_real plan q hr
  refine ⟨rule, hrule, followsPlan_of_made hplan ?_ hmade.orderQuantity_pos (made hrule)⟩
  rw [hlead]
  exact hdomain.leadTimeDays

/-- The plan for a sale and a quiet day has a rule that is reviewed each day. -/
theorem followsPlan_saleAndQuietDay :
    ∃ plan rule, StockingPlan.ofHistory [boltSale, StockingPlan.quietDay] StockingPlan.dearOrders {}
        "bolt" "depot" boltDepot.now = .ok plan
      ∧ ofPlan plan .default 1 = .ok rule ∧ rule.FollowsPlan plan := by
  have hsold : ∃ o ∈ [boltSale, StockingPlan.quietDay], 0 < o.quantity :=
    ⟨boltSale, List.mem_cons_self, one_pos⟩
  obtain ⟨plan, h⟩ := StockingPlan.exists_ofHistory_dearOrders hsold
  obtain ⟨rule, hrule, hfollows⟩ :=
    followsPlan StockingPlan.build_dearOrders h .default (le_refl 1)
  exact ⟨plan, rule, h, hrule, hfollows⟩

end ReorderRule

end Restock
