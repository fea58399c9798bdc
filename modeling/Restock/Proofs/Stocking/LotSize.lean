import Restock.Proofs.Stocking.Consistency

/-!
# The best order quantity

Ordering costs more the less is ordered at a time, holding costs more the more is. At the economic
order quantity the two are level (`orders_eq_holding`), and what any other quantity costs more is
measured by the square of its distance from there (`lotCost_eq_add_sq`). So it is the one quantity of
least cost (`BestLot`), and ordering another one makes no plan cheaper (`StockingPlan.leastCost`).
-/

namespace Restock

/-- What ordering a quantity at a time costs in a year: its orders, and holding half of it on
average. -/
def lotCost {α : Type} [Scalar α] (annual orderingCost holdingRate quantity : α) : α :=
  annual / quantity * orderingCost + quantity / Scalar.ofNat 2 * holdingRate

theorem lotCost_real (annual orderingCost holdingRate quantity : ℝ) :
    lotCost annual orderingCost holdingRate quantity
      = annual / quantity * orderingCost + quantity / 2 * holdingRate := by
  rw [lotCost, Scalar.ofNat_real, Nat.cast_ofNat]

section
variable {annual orderingCost holdingRate best quantity : ℝ}

theorem sq_economicOrderQuantity
    (h : economicOrderQuantity annual orderingCost holdingRate = .ok best) :
    best ^ 2 * holdingRate = 2 * annual * orderingCost := by
  obtain ⟨ha, ho, hh⟩ := exists_economicOrderQuantity_iff.1 ⟨best, h⟩
  obtain ⟨_, rfl⟩ := economicOrderQuantity_eq_ok_iff.1 h
  show Real.sqrt _ ^ 2 * holdingRate = _
  rw [Scalar.ofNat_real, Real.sq_sqrt (by positivity), Nat.cast_ofNat, div_mul_cancel₀ _ hh.ne']

theorem orders_eq_holding (hb : best ^ 2 * holdingRate = 2 * annual * orderingCost)
    (hpos : 0 < best) : annual / best * orderingCost = best / 2 * holdingRate := by
  rw [div_mul_eq_mul_div, div_eq_iff hpos.ne']
  linarith

theorem lotCost_eq_add_sq (hb : best ^ 2 * holdingRate = 2 * annual * orderingCost)
    (hq : 0 < quantity) :
    lotCost annual orderingCost holdingRate quantity
      = best * holdingRate + holdingRate * (quantity - best) ^ 2 / (2 * quantity) := by
  -- in terms of the best quantity alone, the cost is a square to be completed
  have horders : annual / quantity * orderingCost = best ^ 2 * holdingRate / (2 * quantity) := by
    rw [hb]
    field_simp
  rw [lotCost_real, horders]
  field_simp
  ring

theorem lotCost_best (hb : best ^ 2 * holdingRate = 2 * annual * orderingCost) (hpos : 0 < best) :
    lotCost annual orderingCost holdingRate best = best * holdingRate := by
  rw [lotCost_eq_add_sq hb hpos, sub_self]
  ring

end

/-- The one quantity that costs least. -/
structure BestLot (annual orderingCost holdingRate best : ℝ) : Prop where
  pos : 0 < best
  least : ∀ quantity, 0 < quantity →
    lotCost annual orderingCost holdingRate best ≤ lotCost annual orderingCost holdingRate quantity
  unique : ∀ quantity, 0 < quantity →
    lotCost annual orderingCost holdingRate quantity = lotCost annual orderingCost holdingRate best →
    quantity = best

theorem BestLot.of_economicOrderQuantity {annual orderingCost holdingRate best : ℝ}
    (h : economicOrderQuantity annual orderingCost holdingRate = .ok best) :
    BestLot annual orderingCost holdingRate best := by
  obtain ⟨_, _, hh⟩ := exists_economicOrderQuantity_iff.1 ⟨best, h⟩
  have hpos := economicOrderQuantity_pos h
  have hb := sq_economicOrderQuantity h
  refine ⟨hpos, ?_, ?_⟩
  · intro quantity hq
    rw [lotCost_best hb hpos, lotCost_eq_add_sq hb hq]
    exact le_add_of_nonneg_right (by positivity)
  · intro quantity hq heq
    rw [lotCost_best hb hpos, lotCost_eq_add_sq hb hq, add_eq_left, div_eq_zero_iff] at heq
    have hsq : holdingRate * (quantity - best) ^ 2 = 0 :=
      heq.resolve_right (mul_pos two_pos hq).ne'
    have hdistance : (quantity - best) ^ 2 = 0 := (mul_eq_zero.1 hsq).resolve_left hh.ne'
    exact sub_eq_zero.1 ((pow_eq_zero_iff two_ne_zero).1 hdistance)

/-! ## Plans -/

namespace StockingPlan

/-- What a plan would cost in a year with another order quantity and the same safety stock. -/
def costWith {α : Type} [Scalar α] (plan : StockingPlan α) (p : Parameters α) (quantity : α) : α :=
  (quantity / Scalar.ofNat 2 + plan.safetyStock) * p.holdingCostRate
    + plan.averageDailyDemand * daysPerYear / quantity * p.orderingCost

theorem costWith_eq (plan : StockingPlan ℝ) (p : Parameters ℝ) (quantity : ℝ) :
    plan.costWith p quantity
      = lotCost (plan.averageDailyDemand * daysPerYear) p.orderingCost p.holdingCostRate quantity
        + plan.safetyStock * p.holdingCostRate := by
  rw [costWith, lotCost]
  ring

/-- A plan of least cost: its orders cost as much as holding what they bring, safety stock is held on
top of that, and no other quantity makes it cheaper. -/
structure LeastCost (p : Parameters ℝ) (plan : StockingPlan ℝ) : Prop where
  orderingCost : plan.orderingCost = plan.orderQuantity / 2 * p.holdingCostRate
  totalCost : plan.totalCost = 2 * plan.orderingCost + plan.safetyStock * p.holdingCostRate
  totalCost_eq : plan.totalCost = plan.costWith p plan.orderQuantity
  least : ∀ quantity, 0 < quantity → plan.totalCost ≤ plan.costWith p quantity

theorem leastCost_of_made {history : List (Observation ℝ)} {p : Parameters ℝ}
    {policy : OptimizerPolicy ℝ} {plan : StockingPlan ℝ} (h : plan.Made history p policy) :
    plan.LeastCost p := by
  have hordering := h.orderingCost_eq
  have horders := orders_eq_holding (sq_economicOrderQuantity h.orderQuantity) h.orderQuantity_pos
  have htotal : plan.totalCost = plan.costWith p plan.orderQuantity := by
    rw [h.totalCost, h.holdingCost, hordering, costWith]
  refine ⟨hordering.trans horders, ?_, htotal, ?_⟩
  · rw [h.totalCost, h.holdingCost, hordering, horders, Scalar.ofNat_real, Nat.cast_ofNat]
    ring
  · intro quantity hq
    rw [htotal, costWith_eq, costWith_eq, add_le_add_iff_right]
    exact (BestLot.of_economicOrderQuantity h.orderQuantity).least quantity hq

/-- **The economic order quantity is the best one**: with costs and demand above zero it exists, and it
is the only quantity of least cost. Hence every plan is one of least cost. -/
theorem leastCost :
    (∀ annual orderingCost holdingRate : ℝ, 0 < annual → 0 < orderingCost → 0 < holdingRate →
        ∃ best, economicOrderQuantity annual orderingCost holdingRate = .ok best
          ∧ BestLot annual orderingCost holdingRate best)
      ∧ ∀ (history : List (Observation ℝ)) (p : Parameters ℝ) (policy : OptimizerPolicy ℝ)
          (product location : String) (now : Instant) (plan : StockingPlan ℝ),
        ofHistory history p policy product location now = .ok plan → plan.LeastCost p := by
  constructor
  · intro annual orderingCost holdingRate ha ho hh
    obtain ⟨best, h⟩ := exists_economicOrderQuantity_iff.2 ⟨ha, ho, hh⟩
    exact ⟨best, h, .of_economicOrderQuantity h⟩
  · intro history p policy product location now plan h
    exact leastCost_of_made (made h)

/-- A unit a day and orders at 730: best is one order every second year. -/
theorem leastCost_boltSale :
    (economicOrderQuantity (365 : ℝ) 730 1 = .ok 730 ∧ BestLot 365 730 1 730)
      ∧ ∃ plan, ofHistory [boltSale] dearOrders {} "bolt" "depot" boltDepot.now = .ok plan
        ∧ plan.LeastCost dearOrders := by
  obtain ⟨hlots, hplans⟩ := leastCost
  constructor
  · obtain ⟨best, h, hbest⟩ := hlots 365 730 1 (by norm_num) (by norm_num) one_pos
    have hsq : best ^ 2 = 730 ^ 2 := by
      rw [← mul_one (best ^ 2), sq_economicOrderQuantity h]
      norm_num
    obtain rfl : best = 730 := (pow_left_inj₀ hbest.pos.le (by norm_num) two_ne_zero).1 hsq
    exact ⟨h, hbest⟩
  · have hsold : ∃ o ∈ [boltSale], 0 < o.quantity := ⟨boltSale, List.mem_cons_self, one_pos⟩
    have hp := Parameters.InDomain.of_build_real build_dearOrders
    obtain ⟨plan, h⟩ : ∃ plan,
        ofHistory [boltSale] dearOrders {} "bolt" "depot" boltDepot.now = .ok plan :=
      exists_ofHistory_iff.2 ⟨hsold, hp.orderingCost, hp.holdingCostRate, hp.leadTimeDays.le⟩
    exact ⟨plan, h, hplans _ _ _ _ _ _ plan h⟩

end StockingPlan

end Restock
