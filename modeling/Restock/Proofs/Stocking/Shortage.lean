import Restock.Proofs.Normal.Loss
import Restock.Proofs.Stocking.Plan

/-!
# The penalty for running out

`rawStockoutCost` is the penalty in closed form, before it is clamped at zero
(`expectedStockoutCost_of_exposed`). The buffer enters the loss in units of the deviation over the lead
time, which is also a factor outside: so what the loss of a unit of buffer can be at most
(`standardLoss_sub_le`) becomes a unit short in each cycle, at its penalty.
-/

namespace Restock

/-- Demand varies over the lead time, stock runs out in cycles, and running out has a price. -/
structure Exposed (quantity deviation leadTime penalty : ℝ) : Prop where
  penalty_pos : 0 < penalty
  quantity_pos : 0 < quantity
  spread_pos : 0 < deviation * Real.sqrt leadTime

/-- The penalty before it is clamped. -/
noncomputable def rawStockoutCost (annual quantity spread safety penalty : ℝ) : ℝ :=
  penalty * (annual / quantity) * spread * standardLoss (safety / spread)

section
variable {annual quantity spread penalty safety safety' : ℝ}

/-- A clamp at zero never widens a gap. -/
theorem max_zero_sub_max_zero_le {x y : ℝ} (h : y ≤ x) : max 0 x - max 0 y ≤ x - y := by
  have hx : max 0 x ≤ max 0 y + (x - y) :=
    max_le (add_nonneg (le_max_left 0 y) (sub_nonneg.2 h)) (by linarith [le_max_right 0 y])
  linarith

theorem rawStockoutCost_sub : rawStockoutCost annual quantity spread safety penalty
      - rawStockoutCost annual quantity spread safety' penalty
    = penalty * (annual / quantity) * spread
      * (standardLoss (safety / spread) - standardLoss (safety' / spread)) :=
  (mul_sub _ _ _).symm

variable (ha : 0 ≤ annual) (hq : 0 < quantity) (hs : 0 < spread) (hp : 0 < penalty)
  (h : safety ≤ safety')
include ha hq hs hp h

theorem rawStockoutCost_le : rawStockoutCost annual quantity spread safety' penalty
    ≤ rawStockoutCost annual quantity spread safety penalty :=
  mul_le_mul_of_nonneg_left
    (standardLoss_antitone (div_le_div_of_nonneg_right h hs.le)) (by positivity)

theorem rawStockoutCost_sub_le : rawStockoutCost annual quantity spread safety penalty
      - rawStockoutCost annual quantity spread safety' penalty
    ≤ penalty * (annual / quantity) * (safety' - safety) := by
  have hloss := standardLoss_sub_le (div_le_div_of_nonneg_right h hs.le)
  calc rawStockoutCost annual quantity spread safety penalty
        - rawStockoutCost annual quantity spread safety' penalty
      = penalty * (annual / quantity) * spread
          * (standardLoss (safety / spread) - standardLoss (safety' / spread)) :=
        rawStockoutCost_sub
    _ ≤ penalty * (annual / quantity) * spread * (safety' / spread - safety / spread) :=
        mul_le_mul_of_nonneg_left hloss (by positivity)
    _ = penalty * (annual / quantity) * (safety' - safety) := by
        field_simp

end

section
variable {annual quantity deviation leadTime penalty : ℝ}

theorem expectedStockoutCost_of_exposed (hl : 0 ≤ leadTime)
    (he : Exposed quantity deviation leadTime penalty) (safety : ℝ) :
    expectedStockoutCost annual quantity deviation leadTime safety penalty = .ok
      (max 0 (rawStockoutCost annual quantity (deviation * Real.sqrt leadTime) safety penalty)) := by
  have hroot : Scalar.root? leadTime = .ok (Real.sqrt leadTime) := if_neg hl.not_gt
  unfold expectedStockoutCost
  rw [hroot, Planned.ok_bind]
  dsimp only
  rw [if_neg (by simp [he.penalty_pos, he.quantity_pos, he.spread_pos])]
  exact congrArg Except.ok (Scalar.max_real _ _)

theorem expectedStockoutCost_of_not_exposed (hl : 0 ≤ leadTime)
    (he : ¬ Exposed quantity deviation leadTime penalty) (safety : ℝ) :
    expectedStockoutCost annual quantity deviation leadTime safety penalty = .ok 0 := by
  have hroot : Scalar.root? leadTime = .ok (Real.sqrt leadTime) := if_neg hl.not_gt
  unfold expectedStockoutCost
  rw [hroot, Planned.ok_bind]
  dsimp only
  rw [if_pos]
  · rfl
  · by_contra hpos
    simp only [not_or, not_le] at hpos
    exact he ⟨hpos.2.1, hpos.2.2, hpos.1⟩

end

/-- **More buffer never raises the penalty, and a unit of it never saves more than a unit short in
each cycle.** Without a price, cycles or demand that varies there is no penalty to save. -/
theorem stockout_costs_of_two_buffers {annual quantity deviation leadTime penalty safety safety' : ℝ}
    (ha : 0 ≤ annual) (hl : 0 ≤ leadTime) (hs : safety ≤ safety') :
    ∃ cost cost',
      expectedStockoutCost annual quantity deviation leadTime safety penalty = .ok cost
      ∧ expectedStockoutCost annual quantity deviation leadTime safety' penalty = .ok cost'
      ∧ 0 ≤ cost ∧ 0 ≤ cost'
      ∧ (Exposed quantity deviation leadTime penalty →
          0 ≤ cost - cost' ∧ cost - cost' ≤ penalty * (annual / quantity) * (safety' - safety))
      ∧ (¬ Exposed quantity deviation leadTime penalty → cost = 0 ∧ cost' = 0) := by
  by_cases he : Exposed quantity deviation leadTime penalty
  · have hfall := rawStockoutCost_le ha he.quantity_pos he.spread_pos he.penalty_pos hs
    have hbound := rawStockoutCost_sub_le ha he.quantity_pos he.spread_pos he.penalty_pos hs
    refine ⟨_, _, expectedStockoutCost_of_exposed hl he safety,
      expectedStockoutCost_of_exposed hl he safety', le_max_left _ _, le_max_left _ _,
      fun _ => ⟨?_, ?_⟩, absurd he⟩
    · exact sub_nonneg.2 (max_le_max_left 0 hfall)
    · exact (max_zero_sub_max_zero_le hfall).trans hbound
  · exact ⟨0, 0, expectedStockoutCost_of_not_exposed hl he safety,
      expectedStockoutCost_of_not_exposed hl he safety', le_rfl, le_rfl, fun h => absurd h he,
      fun _ => ⟨rfl, rfl⟩⟩

/-- A deviation of two units over four days, ten units an order and a penalty of a hundred: four units
of buffer more save at most what four units short cost in each of the 36.5 cycles of a year. -/
theorem stockout_costs_of_four_units_more :
    (0 : ℝ) ≤ 365 ∧ (0 : ℝ) ≤ 4 ∧ (0 : ℝ) ≤ 4 ∧ Exposed 10 2 4 100
      ∧ ∃ cost cost' : ℝ,
        expectedStockoutCost 365 10 2 4 0 100 = .ok cost
        ∧ expectedStockoutCost 365 10 2 4 4 100 = .ok cost'
        ∧ 0 ≤ cost - cost' ∧ cost - cost' ≤ 14600 := by
  have he : Exposed 10 2 4 100 :=
    ⟨by norm_num, by norm_num, mul_pos two_pos (Real.sqrt_pos.2 four_pos)⟩
  obtain ⟨cost, cost', hc, hc', -, -, h, -⟩ :=
    @stockout_costs_of_two_buffers 365 10 2 4 100 0 4 (by norm_num) (by norm_num) (by norm_num)
  have hbound : cost - cost' ≤ 100 * (365 / 10) * (4 - 0) := (h he).2
  refine ⟨by norm_num, by norm_num, by norm_num, he, cost, cost', hc, hc', (h he).1,
    hbound.trans_eq ?_⟩
  norm_num

end Restock
