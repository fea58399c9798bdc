import Restock.Proofs.Arithmetic.Pairs
import Restock.Proofs.Forecast.Recomputed
import Restock.Proofs.Risk.Comparison
import Restock.Proofs.Stocking.Consistency

/-!
# Roots of a variance

Forecasts, plans and stockout analyses take the root of how much demand varies. In exact arithmetic a
variance is no less than zero, as it is made of squares over the pairs of values; so each of these roots is
to be had (`hasRoots`). An analysis takes the root of as many variances as there are days to a
checkpoint, and lacks it only where that number of days is negative (`Outlook.exists_negative_checkpoint`).
-/

namespace Restock

open Observation

theorem Scalar.root?_of_nonneg {x : ℝ} (h : 0 ≤ x) : root? x = .ok (√x) := if_neg (not_lt.2 h)

/-- Demand varies by no less than zero, by itself or by a share of its first quantity. -/
theorem demandVariance_nonneg {quantities : List ℝ} {variability variance : ℝ}
    (h : demandVariance quantities variability = .ok variance) : 0 ≤ variance := by
  unfold demandVariance at h
  split at h
  · cases h
    exact Statistics.variance_nonneg quantities
  · obtain rfl : (quantities.headD 0 * variability) ^ 2 = variance := Except.ok.inj h
    exact sq_nonneg _

/-- A forecast made from a history, whatever else it was made with. -/
def Forecast.MadeFrom (history : List (Observation ℝ)) (f : Forecast ℝ) : Prop :=
  ∃ policy now horizon product location p historyDays,
    ofHistory policy now history horizon product location p historyDays = .ok f

theorem Forecast.MadeFrom.variance_nonneg {history : List (Observation ℝ)} {f : Forecast ℝ}
    (h : f.MadeFrom history) : 0 ≤ f.variance := by
  obtain ⟨_, _, _, _, _, _, _, h⟩ := h
  obtain ⟨b, _, rfl⟩ := ofHistory_eq_ok_iff.1 h
  exact Statistics.variance_nonneg (quantities b.series)

/-! ## Stockout analyses -/

namespace Outlook

variable {outlook : Outlook ℝ} {stock : ℝ} {policy : RiskPolicy ℝ} {now : Instant}

/-- For want of a root an analysis fails only at a checkpoint before the first day. -/
theorem exists_negative_checkpoint (hv : 0 ≤ outlook.variance)
    (h : outlook.risk stock policy now = .error (.arithmetic .rootOfNegative)) :
    ∃ i, policy.checkpoints.day i < 0 := by
  by_contra hall
  push Not at hall
  by_cases hs : stock < 0
  · rw [risk, if_pos hs] at h
    cases h
  · obtain ⟨r, hr⟩ := exists_risk_of_variance_nonneg hv hall (not_lt.1 hs) now
    rw [hr] at h
    cases h

end Outlook

/-! ## What is planned from a history -/

/-- The roots that are taken of how much the demand of a history varies. -/
structure HasRoots (history : List (Observation ℝ)) : Prop where
  /-- The deviation that a plan and its safety stock go by. -/
  deviation : ∀ (p : Parameters ℝ) (policy : OptimizerPolicy ℝ) (product location : String)
    (now : Instant) (plan : StockingPlan ℝ),
    StockingPlan.ofHistory history p policy product location now = .ok plan →
    Scalar.root? (Statistics.variance (quantities history)) = .ok plan.demandDeviation
  /-- The deviation that the safety stock by itself goes by. -/
  buffer : ∀ variability variance : ℝ,
    demandVariance (quantities history) variability = .ok variance →
    Scalar.root? variance = .ok (√variance)
  /-- The deviation that the margin of a forecast goes by. -/
  margin : ∀ f : Forecast ℝ, f.MadeFrom history → Scalar.root? f.variance = .ok (√f.variance)
  /-- No analysis of a forecast lacks the deviation of a day, nor that of the days to a checkpoint. -/
  risk : ∀ f : Forecast ℝ, f.MadeFrom history →
    ∀ (stock : ℝ) (policy : RiskPolicy ℝ) (now : Instant), 0 ≤ stock →
    (∀ i, 0 ≤ policy.checkpoints.day i) → ∃ r, f.outlook.risk stock policy now = .ok r
  /-- To lack one it has to count the days backwards from the first. -/
  rootless : ∀ f : Forecast ℝ, f.MadeFrom history →
    ∀ (stock : ℝ) (policy : RiskPolicy ℝ) (now : Instant),
    f.outlook.risk stock policy now = .error (.arithmetic .rootOfNegative) →
    ∃ i, policy.checkpoints.day i < 0

theorem hasRoots (history : List (Observation ℝ)) : HasRoots history where
  deviation p policy product location now plan h := by
    rw [(StockingPlan.made h).deviation]
    exact Scalar.root?_of_nonneg (Statistics.variance_nonneg _)
  buffer _ _ h := Scalar.root?_of_nonneg (demandVariance_nonneg h)
  margin f h := Scalar.root?_of_nonneg h.variance_nonneg
  risk f h _ _ now hs hc := Outlook.exists_risk_of_variance_nonneg h.variance_nonneg hc hs now
  rootless f h _ _ _ := Outlook.exists_negative_checkpoint h.variance_nonneg

/-- **A variance has a root.** It is made of the squared differences of pairs, so it is zero for equal
values only and never below; and no forecast, plan or analysis wants for the root of one. -/
theorem variance_rooted :
    (∀ xs, Statistics.Dispersion xs) ∧ ∀ history : List (Observation ℝ), HasRoots history :=
  ⟨Statistics.dispersion, hasRoots⟩

/-- A sale and a quiet day vary. A plan for them, a forecast and the risk of running out under the normal
approximation are all to be had. -/
theorem variance_rooted_saleAndQuietDay :
    let history := [boltSale, StockingPlan.quietDay]
    0 < Statistics.variance (quantities history)
    ∧ (∃ plan, StockingPlan.ofHistory history StockingPlan.dearOrders {} "bolt" "depot" boltDepot.now
        = .ok plan
      ∧ Scalar.root? (Statistics.variance (quantities history)) = .ok plan.demandDeviation)
    ∧ ∃ f r, Forecast.ofHistory {} boltDepot.now history 2 "bolt" "depot" none none = .ok f
      ∧ Scalar.root? f.variance = .ok (√f.variance)
      ∧ f.outlook.risk 1 { probabilityMode := .normal } boltDepot.now = .ok r := by
  intro history
  obtain ⟨hspread, hroots⟩ := variance_rooted
  refine ⟨?_, ?_, ?_⟩
  · refine (hspread _).nonneg.lt_of_ne' fun hzero => ?_
    have hequal := (hspread _).eq_zero_iff.1 hzero 1 List.mem_cons_self 0
      (List.mem_cons_of_mem _ List.mem_cons_self)
    exact one_ne_zero hequal
  · have hsold : ∃ o ∈ history, 0 < o.quantity := ⟨boltSale, List.mem_cons_self, one_pos⟩
    obtain ⟨plan, h⟩ := StockingPlan.exists_ofHistory_dearOrders hsold
    exact ⟨plan, h, (hroots history).deviation _ _ _ _ _ plan h⟩
  · obtain ⟨f, h⟩ : ∃ f, Forecast.ofHistory {} boltDepot.now history 2 "bolt" "depot" none none
        = .ok f :=
      Forecast.exists_ofHistory_iff.2
        { Forecast.feasible_boltSale with observed := List.cons_ne_nil _ _ }
    have hmade : f.MadeFrom history := ⟨_, _, _, _, _, _, _, h⟩
    obtain ⟨r, hr⟩ := (hroots history).risk f hmade 1 { probabilityMode := .normal } boltDepot.now
      zero_le_one (by decide)
    exact ⟨f, r, h, (hroots history).margin f hmade, hr⟩

end Restock
