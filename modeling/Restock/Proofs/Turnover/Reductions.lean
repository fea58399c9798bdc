import Mathlib.Algebra.Order.BigOperators.Group.List
import Mathlib.Data.List.Forall2
import Restock.Proofs.Arithmetic.Exact
import Restock.Turnover

/-!
# Which stock is reduced, and to what

A position has stock in excess exactly where it turns over too slowly (`Position.excess_pos_iff`), so the
two tests that a reduction has to pass come to one. It takes its position to the stock at which sales
reach the target (`Reduction.Restores`). What is in excess grows with the target, so a higher one keeps
every reduction and frees no less (`TurnoverPlan.reachesTarget`).
-/

namespace Restock

/-- Stock that would take more sales to turn over as often as the target says. -/
def Position.Slow {α : Type} [Scalar α] (target : α) (p : Position α) : Prop :=
  0 < p.stock ∧ p.annualSales < target * p.stock

instance {α : Type} [Scalar α] (target : α) : DecidablePred (Position.Slow target) := fun p =>
  inferInstanceAs (Decidable (0 < p.stock ∧ p.annualSales < target * p.stock))

/-- What a reduction makes of its position. -/
structure Reduction.Restores (policy : TurnoverPolicy ℝ) (target : ℝ) (p : Position ℝ)
    (r : Reduction ℝ) : Prop where
  product : r.product = p.product
  turnover : r.turnover = turnoverRatio p.annualSales p.stock
  /-- What remains is the stock that the sales would turn over as often as the target says. -/
  remaining : p.stock + r.adjustment = p.annualSales / target
  remaining_nonneg : 0 ≤ p.stock + r.adjustment
  remaining_lt : p.stock + r.adjustment < p.stock
  onTarget : 0 < p.annualSales → turnoverRatio p.annualSales (p.stock + r.adjustment) = target
  impact : r.impact = -r.adjustment * policy.unitValue
  priority : r.priority = .high ↔ policy.highPriorityExcessUnits < -r.adjustment
  target : r.target = target

/-! ## One position -/

namespace Position

/-- The value of what a position holds in excess. -/
noncomputable def freed (policy : TurnoverPolicy ℝ) (target : ℝ) (p : Position ℝ) : ℝ :=
  max 0 (p.excess target) * policy.unitValue

variable {policy : TurnoverPolicy ℝ} {target : ℝ} {p : Position ℝ}

/-- **There is stock in excess** exactly where it turns over too slowly. -/
theorem excess_pos_iff (ht : 0 < target) (hs : 0 ≤ p.annualSales) :
    0 < p.excess target ↔ p.Slow target := by
  rw [excess, sub_pos, div_lt_iff₀' ht, Slow, iff_and_self]
  intro hsales
  exact (pos_iff_pos_of_mul_pos (hs.trans_lt hsales)).1 ht

theorem Slow.turnoverRatio_lt (h : p.Slow target) : turnoverRatio p.annualSales p.stock < target := by
  rw [turnoverRatio, if_pos h.1, div_lt_iff₀ h.1]
  exact h.2

/-- A slow position has a reduction, which takes it to the target. -/
theorem exists_reduction?_of_slow (policy : TurnoverPolicy ℝ) (ht : 0 < target)
    (hs : 0 ≤ p.annualSales) (h : p.Slow target) :
    ∃ r, p.reduction? policy target = some r ∧ r.Restores policy target p := by
  have hexcess := (excess_pos_iff ht hs).2 h
  have hremaining : p.stock + -p.excess target = p.annualSales / target := by
    rw [excess, neg_sub, add_sub_cancel]
  unfold reduction?
  rw [if_neg (not_le.2 h.turnoverRatio_lt), if_neg (not_le.2 hexcess)]
  refine ⟨_, rfl, ?_⟩
  exact
    { product := rfl
      turnover := rfl
      remaining := hremaining
      remaining_nonneg := by
        rw [hremaining]
        exact div_nonneg hs ht.le
      remaining_lt := add_lt_of_neg_right _ (neg_neg_of_pos hexcess)
      onTarget := by
        intro hsold
        rw [hremaining, turnoverRatio, if_pos (div_pos hsold ht), div_div_cancel₀ hsold.ne']
      impact := by rw [neg_neg]
      priority := by
        rw [neg_neg]
        split
        · next hhigh => exact iff_of_true rfl hhigh
        · next hlow => exact iff_of_false nofun hlow
      target := rfl }

theorem excess_nonpos (ht : 0 < target) (hs : 0 ≤ p.annualSales) (h : ¬ p.Slow target) :
    p.excess target ≤ 0 :=
  not_lt.1 (mt (excess_pos_iff ht hs).1 h)

/-- Any other position has none, whichever test it fails. -/
theorem reduction?_of_not_slow (ht : 0 < target) (hs : 0 ≤ p.annualSales) (h : ¬ p.Slow target) :
    p.reduction? policy target = none := by
  unfold reduction?
  dsimp only
  rw [if_pos (excess_nonpos ht hs h), ite_self]

theorem Slow.mono {higher : ℝ} (hle : target ≤ higher) (h : p.Slow target) : p.Slow higher :=
  ⟨h.1, h.2.trans_le (mul_le_mul_of_nonneg_right hle h.1.le)⟩

theorem freed_mono {higher : ℝ} (ht : 0 < target) (hle : target ≤ higher) (hs : 0 ≤ p.annualSales)
    (hv : 0 ≤ policy.unitValue) : p.freed policy target ≤ p.freed policy higher := by
  have hexcess : p.excess target ≤ p.excess higher :=
    sub_le_sub_left (div_le_div_of_nonneg_left hs ht hle) _
  exact mul_le_mul_of_nonneg_right (max_le_max_left 0 hexcess) hv

end Position

theorem Reduction.Restores.freed_eq {policy : TurnoverPolicy ℝ} {target : ℝ} {p : Position ℝ}
    {r : Reduction ℝ} (h : r.Restores policy target p) : p.freed policy target = r.impact := by
  have hexcess : p.excess target = -r.adjustment := by
    rw [Position.excess, ← h.remaining, sub_add_cancel_left]
  have hpos : 0 ≤ -r.adjustment := by
    linarith [h.remaining_lt]
  rw [Position.freed, hexcess, max_eq_right hpos, h.impact]

/-! ## All positions -/

namespace TurnoverPlan

variable {policy : TurnoverPolicy ℝ} {target : ℝ} {positions : List (Position ℝ)}

/-- Slow positions are reduced one by one, in their order, and no others. -/
theorem forall₂_restores (ht : 0 < target) (hs : ∀ p ∈ positions, 0 ≤ p.annualSales) :
    List.Forall₂ (Reduction.Restores policy target) (positions.filter (Position.Slow target ·))
      (positions.filterMap (Position.reduction? policy target)) := by
  induction positions with
  | nil => exact .nil
  | cons p positions ih =>
      have hp := hs p List.mem_cons_self
      have hrest := ih fun q hq => hs q (List.mem_cons_of_mem p hq)
      by_cases h : p.Slow target
      · obtain ⟨r, hr, hrestores⟩ := Position.exists_reduction?_of_slow policy ht hp h
        rw [List.filter_cons, if_pos (decide_eq_true h), List.filterMap_cons_some hr]
        exact .cons hrestores hrest
      · rw [List.filter_cons, if_neg (by simpa using h),
          List.filterMap_cons_none (Position.reduction?_of_not_slow ht hp h)]
        exact hrest

/-- The reductions together free what all positions hold in excess. -/
theorem sum_impact (ht : 0 < target) (hs : ∀ p ∈ positions, 0 ≤ p.annualSales) :
    ((positions.filterMap (Position.reduction? policy target)).map Reduction.impact).sum
      = (positions.map (Position.freed policy target)).sum := by
  induction positions with
  | nil => rfl
  | cons p positions ih =>
      have hp := hs p List.mem_cons_self
      have hrest := ih fun q hq => hs q (List.mem_cons_of_mem p hq)
      rw [List.map_cons, List.sum_cons, ← hrest]
      by_cases h : p.Slow target
      · obtain ⟨r, hr, hrestores⟩ := Position.exists_reduction?_of_slow policy ht hp h
        rw [List.filterMap_cons_some hr, List.map_cons, List.sum_cons, hrestores.freed_eq]
      · rw [List.filterMap_cons_none (Position.reduction?_of_not_slow ht hp h), Position.freed,
          max_eq_left (Position.excess_nonpos ht hp h), zero_mul, zero_add]

/-- What a plan for a target does with some positions. -/
structure Reaches (policy : TurnoverPolicy ℝ) (positions : List (Position ℝ)) (target : ℝ)
    (plan : TurnoverPlan ℝ) : Prop where
  /-- Each slow position has one reduction, in the order of the positions, and no other has any. -/
  reductions : List.Forall₂ (Reduction.Restores policy target)
    (positions.filter (Position.Slow target ·)) plan.reductions
  workingCapital : plan.workingCapital = (plan.reductions.map Reduction.impact).sum
  /-- It is the value of all that the positions hold in excess. -/
  excess : plan.workingCapital = (positions.map (Position.freed policy target)).sum

theorem exists_reaches (policy : TurnoverPolicy ℝ) (location : String) (carryingCostRate : ℝ)
    (now : Instant) (ht : 0 < target) (hs : ∀ p ∈ positions, 0 ≤ p.annualSales) :
    ∃ plan, ofPositions policy location positions target carryingCostRate now = .ok plan
      ∧ plan.Reaches policy positions target := by
  unfold ofPositions
  rw [if_neg (not_le.2 ht)]
  refine ⟨_, rfl, forall₂_restores ht hs, Scalar.sum_real _, ?_⟩
  rw [← sum_impact ht hs]
  exact Scalar.sum_real _

theorem Reaches.map_product {plan : TurnoverPlan ℝ} (h : plan.Reaches policy positions target) :
    plan.reductions.map Reduction.product
      = (positions.filter (Position.Slow target ·)).map Position.product := by
  have hproducts : List.Forall₂ (· = ·) (plan.reductions.map Reduction.product)
      ((positions.filter (Position.Slow target ·)).map Position.product) :=
    List.forall₂_map_left_iff.2 (List.forall₂_map_right_iff.2
      (h.reductions.imp fun _ _ hr => hr.product).flip)
  rwa [List.forall₂_eq_eq_eq] at hproducts

/-- What a higher target keeps: every position that is reduced, and what that frees. -/
structure KeptBy (policy : TurnoverPolicy ℝ) (positions : List (Position ℝ)) (target higher : ℝ)
    (plan next : TurnoverPlan ℝ) : Prop where
  positions : (positions.filter (Position.Slow target ·)).Sublist
    (positions.filter (Position.Slow higher ·))
  products : (plan.reductions.map Reduction.product).Sublist (next.reductions.map Reduction.product)
  workingCapital : 0 ≤ policy.unitValue → plan.workingCapital ≤ next.workingCapital

/-- **Slow stock is brought to the target.** For any target above zero there is a plan. It reduces the
positions that turn over too slowly, and no others, to where sales reach the target. A plan for a higher
target reduces them too, and as long as units are worth something it frees no less. -/
theorem reachesTarget (policy : TurnoverPolicy ℝ) (location : String) (carryingCostRate : ℝ)
    (now : Instant) (ht : 0 < target) (hs : ∀ p ∈ positions, 0 ≤ p.annualSales) :
    ∃ plan, ofPositions policy location positions target carryingCostRate now = .ok plan
      ∧ plan.Reaches policy positions target
      ∧ ∀ higher, target ≤ higher → ∃ next,
          ofPositions policy location positions higher carryingCostRate now = .ok next
          ∧ next.Reaches policy positions higher
          ∧ plan.KeptBy policy positions target higher next := by
  obtain ⟨plan, hplan, h⟩ := exists_reaches policy location carryingCostRate now ht hs
  refine ⟨plan, hplan, h, fun higher hle => ?_⟩
  obtain ⟨next, hnext, h'⟩ :=
    exists_reaches policy location carryingCostRate now (ht.trans_le hle) hs
  have hkept : (positions.filter (Position.Slow target ·)).Sublist
      (positions.filter (Position.Slow higher ·)) :=
    List.monotone_filter_right positions fun p hslow => by
      simpa using (of_decide_eq_true hslow).mono hle
  refine ⟨next, hnext, h', hkept, ?_, ?_⟩
  · rw [h.map_product, h'.map_product]
    exact hkept.map _
  · intro hv
    rw [h.excess, h'.excess]
    exact List.sum_le_sum fun p hp => Position.freed_mono ht hle (hs p hp) hv

/-- Two products that turn over too slowly for a target of four, and three that do not: one sells well,
one is out of stock and one is owed. -/
noncomputable def shelf : List (Position ℝ) :=
  [("anvil", 1000, 2000), ("bolt", 100, 1000), ("clamp", 0, 0), ("drill", 150, 400),
    ("easel", -5, 10)].map fun (product, stock, sales) => ⟨product, (stock : ℤ), (sales : ℤ)⟩

/-- Noon of 1 July 2024. -/
def countedAt : Instant := ⟨⟨739068, by decide, by decide⟩, 12, 0, 0, 0, 0⟩

/-- Anvils and drills are reduced, which frees 5500 of their value. They are for a target of five too. -/
theorem reachesTarget_shelf :
    ∃ plan, ofPositions {} "depot" shelf 4 (1 / 4) countedAt = .ok plan
      ∧ plan.Reaches {} shelf 4
      ∧ plan.reductions.map Reduction.product = ["anvil", "drill"]
      ∧ plan.workingCapital = 5500
      ∧ ∃ next, ofPositions {} "depot" shelf 5 (1 / 4) countedAt = .ok next
        ∧ plan.KeptBy {} shelf 4 5 next := by
  have hs : ∀ p ∈ shelf, 0 ≤ p.annualSales := by
    norm_num [shelf]
  obtain ⟨plan, hplan, h, hnext⟩ :=
    reachesTarget {} "depot" (1 / 4) countedAt (by norm_num : (0 : ℝ) < 4) hs
  obtain ⟨next, hnext, _, hkept⟩ := hnext 5 (by norm_num)
  refine ⟨plan, hplan, h, ?_, ?_, next, hnext, hkept⟩
  · rw [h.map_product]
    norm_num [shelf, Position.Slow]
  · have hvalue : ({} : TurnoverPolicy ℝ).unitValue = 10 := Scalar.ofNat_real 10
    rw [h.excess]
    norm_num [shelf, Position.freed, Position.excess, hvalue]

end TurnoverPlan

end Restock
