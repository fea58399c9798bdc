import Restock.Proofs.Normal.Quantile
import Restock.Proofs.Stocking.Consistency

/-!
# Two ways to the safety stock

A plan holds a safety stock, and the same buffer can be asked for by itself. Both go by one formula
(`bufferFor`) and may differ in the variance only. From two observations on it is that of the history,
in any number system whose order is asymmetric (`safetyStock_of_two_le`). A single observation has
none: a plan then takes it for zero, and the buffer by itself takes demand to vary by the share that the
parameters say. So on a single observation, and on no other history, they may differ
(`StockingPlan.safetyStock_buffers`).
-/

namespace Restock

open Observation

/-- A number system in which no number is below another and also at it or above it. -/
class AsymmetricOrder (α : Type) [Scalar α] : Prop where
  not_lt_of_lt {a b : α} : a < b → ¬ b < a
  not_le_of_lt {a b : α} : a < b → ¬ b ≤ a

instance : AsymmetricOrder ℝ where
  not_lt_of_lt h := lt_asymm h
  not_le_of_lt h := not_le.2 h

instance : AsymmetricOrder Float where
  not_lt_of_lt := Scalar.not_lt_of_lt_float
  not_le_of_lt := Scalar.not_le_of_lt_float

section
variable {α : Type} [Scalar α]

/-- The buffer for a service level over a lead time when the demand of a day has a given variance. -/
def bufferFor (serviceLevel leadTimeDays variance : α) : α :=
  Scalar.max 0 (Normal.quantile serviceLevel * Scalar.sqrt variance * Scalar.sqrt leadTimeDays)

/-- Parameters in their domains ask for a service level and a lead time that have a buffer. -/
theorem checkCover_of_inDomain [AsymmetricOrder α] {p : Parameters α} {entry : α → Prop}
    (hp : p.InDomain entry) : checkCover p.targetServiceLevel p.leadTimeDays = .ok () := by
  obtain ⟨hpos, hlt⟩ := hp.targetServiceLevel
  have hlevel : ¬ (p.targetServiceLevel ≤ 0 ∨ 1 ≤ p.targetServiceLevel) :=
    not_or.2 ⟨AsymmetricOrder.not_le_of_lt hpos, AsymmetricOrder.not_le_of_lt hlt⟩
  rw [checkCover, if_neg hlevel, if_neg (AsymmetricOrder.not_lt_of_lt hp.leadTimeDays)]

/-- The buffer by itself is that for the variance of demand. -/
theorem safetyStock_of_checkCover {serviceLevel leadTimeDays : α}
    (h : checkCover serviceLevel leadTimeDays = .ok ()) (history : List (Observation α))
    (variability : α) :
    safetyStock history serviceLevel leadTimeDays variability
      = (demandVariance (quantities history) variability).map
          (bufferFor serviceLevel leadTimeDays) := by
  unfold safetyStock
  rw [h, Planned.ok_bind]
  cases demandVariance (quantities history) variability with
  | error e => rfl
  | ok variance => rfl

/-- Two observations have a variance of their own. -/
theorem demandVariance_of_two_le {history : List (Observation α)} (hn : 2 ≤ history.length)
    (variability : α) : demandVariance (quantities history) variability
      = .ok (Statistics.variance (quantities history)) :=
  if_pos (by rwa [quantities, List.length_map])

theorem safetyStock_eq [AsymmetricOrder α] {p : Parameters α} {entry : α → Prop}
    (hp : p.InDomain entry) (history : List (Observation α)) (variability : α) :
    safetyStock history p.targetServiceLevel p.leadTimeDays variability
      = (demandVariance (quantities history) variability).map
          (bufferFor p.targetServiceLevel p.leadTimeDays) :=
  safetyStock_of_checkCover (checkCover_of_inDomain hp) history variability

end

/-- **From two observations on**, the buffer by itself is the safety stock of the plan. -/
theorem safetyStock_of_two_le {α : Type} [Gaussian α] [AsymmetricOrder α] {p : Parameters α}
    {entry : α → Prop} (hp : p.InDomain entry) {history : List (Observation α)}
    (hn : 2 ≤ history.length) {policy : OptimizerPolicy α} {plan : StockingPlan α}
    (h : plan.Made history p policy) :
    safetyStock history p.targetServiceLevel p.leadTimeDays p.demandVariability
      = .ok plan.safetyStock := by
  rw [safetyStock_eq hp, demandVariance_of_two_le hn, h.safetyStock, h.deviation]
  rfl

/-! ## A single observation -/

theorem bufferFor_real (serviceLevel leadTimeDays variance : ℝ) :
    bufferFor serviceLevel leadTimeDays variance
      = max 0 (Normal.quantile serviceLevel * √variance * √leadTimeDays) :=
  Scalar.max_real _ _

theorem bufferFor_zero (serviceLevel leadTimeDays : ℝ) :
    bufferFor serviceLevel leadTimeDays 0 = 0 := by
  rw [bufferFor_real, Real.sqrt_zero, mul_zero, zero_mul, max_self]

/-- Demand that varies needs no buffer exactly where the service level asks for none. -/
theorem bufferFor_sq_eq_zero_iff {serviceLevel leadTimeDays deviation : ℝ} (hl : 0 < leadTimeDays)
    (hd : 0 ≤ deviation) :
    bufferFor serviceLevel leadTimeDays (deviation ^ 2) = 0
      ↔ deviation = 0 ∨ Normal.quantile serviceLevel ≤ 0 := by
  have hroot : 0 < √leadTimeDays := Real.sqrt_pos.2 hl
  rw [bufferFor_real, Real.sqrt_sq hd, max_eq_left_iff, ← not_lt, mul_pos_iff_of_pos_right hroot]
  rcases hd.eq_or_lt with rfl | hpos
  · simp
  · rw [mul_pos_iff_of_pos_right hpos, not_lt, or_iff_right hpos.ne']

/-- The buffer by itself takes a single observation to vary by a share of its quantity. -/
theorem safetyStock_single {p : Parameters ℝ} {entry : ℝ → Prop} (hp : p.InDomain entry)
    (o : Observation ℝ) (variability : ℝ) :
    safetyStock [o] p.targetServiceLevel p.leadTimeDays variability
      = .ok (bufferFor p.targetServiceLevel p.leadTimeDays ((o.quantity * variability) ^ 2)) :=
  safetyStock_eq hp [o] variability

namespace StockingPlan

/-- How the safety stock of a plan and the buffer by itself compare. -/
structure Buffers (history : List (Observation ℝ)) (p : Parameters ℝ) (plan : StockingPlan ℝ)
    (buffer : ℝ) : Prop where
  /-- They are equal from two observations on. -/
  several : 2 ≤ history.length → plan.safetyStock = buffer
  /-- For a single one the plan has none, and the buffer is that of the given share of its quantity. -/
  single : ∀ o, history = [o] → plan.safetyStock = 0 ∧ buffer
    = max 0 (Normal.quantile p.targetServiceLevel * (o.quantity * p.demandVariability)
        * √p.leadTimeDays)
  /-- So they are equal in no other case but where the buffer happens to be zero too. -/
  equal_iff : plan.safetyStock = buffer ↔ 2 ≤ history.length ∨ p.demandVariability = 0
    ∨ Normal.quantile p.targetServiceLevel ≤ 0

theorem buffers_of_made {history : List (Observation ℝ)} {p : Parameters ℝ} {entry : ℝ → Prop}
    (hp : p.InDomain entry) (hd : ∃ o ∈ history, 0 < o.quantity) {policy : OptimizerPolicy ℝ}
    {plan : StockingPlan ℝ} (h : plan.Made history p policy) :
    ∃ buffer, Restock.safetyStock history p.targetServiceLevel p.leadTimeDays p.demandVariability
        = .ok buffer ∧ plan.Buffers history p buffer := by
  match history, hd with
  | [o], hd =>
      have hpos : 0 < o.quantity := by simpa using hd
      have hone : ¬ 2 ≤ [o].length := by simp
      have hshare : 0 ≤ o.quantity * p.demandVariability := mul_nonneg hpos.le hp.demandVariability
      have hplan : plan.safetyStock = 0 := by
        rw [h.safetyStock, h.deviation]
        exact bufferFor_zero p.targetServiceLevel p.leadTimeDays
      refine ⟨_, safetyStock_single hp o p.demandVariability, ?_, ?_, ?_⟩
      · exact fun hn => absurd hn hone
      · intro x hx
        obtain rfl := List.singleton_inj.1 hx
        exact ⟨hplan, by rw [bufferFor_real, Real.sqrt_sq hshare]⟩
      · rw [hplan, eq_comm, bufferFor_sq_eq_zero_iff hp.leadTimeDays hshare, mul_eq_zero,
          or_iff_right hpos.ne', or_iff_right hone]
  | o :: o' :: rest, _ =>
      have hn : 2 ≤ (o :: o' :: rest).length := Nat.le_add_left 2 rest.length
      refine ⟨_, safetyStock_of_two_le hp hn h, fun _ => rfl, ?_, iff_of_true rfl (.inl hn)⟩
      intro x hx
      cases hx

/-- **Where the two ways agree.** With parameters that were built, the buffer by itself is the safety
stock of a plan, to the last bit of a float, as soon as there are two observations. In exact arithmetic
both are to be had of any history with demand, and they differ on single observations only. -/
theorem safetyStock_buffers (product location : String) (now : Instant) :
    (∀ (given : List (String × Raw Float)) (p : Parameters Float)
        (history : List (Observation Float)) (policy : OptimizerPolicy Float)
        (plan : StockingPlan Float),
      Parameters.build given = .ok p → 2 ≤ history.length →
      ofHistory history p policy product location now = .ok plan →
      Restock.safetyStock history p.targetServiceLevel p.leadTimeDays p.demandVariability
        = .ok plan.safetyStock)
    ∧ ∀ (given : List (String × Raw ℝ)) (p : Parameters ℝ) (history : List (Observation ℝ))
        (policy : OptimizerPolicy ℝ),
      Parameters.build given = .ok p → (∃ o ∈ history, 0 < o.quantity) →
      ∃ plan buffer, ofHistory history p policy product location now = .ok plan
        ∧ Restock.safetyStock history p.targetServiceLevel p.leadTimeDays p.demandVariability
          = .ok buffer
        ∧ plan.Buffers history p buffer := by
  constructor
  · intro given p history policy plan hp hn h
    have hdomain : p.InDomain (fun x => ¬ x < 0) :=
      .of_build (Parameters.inDomain_default.of_entries fun x _ =>
        fun h => (Scalar.nonneg_float_iff.1 h).1) (fun _ h => h) hp
    exact safetyStock_of_two_le hdomain hn (made h)
  · intro given p history policy hp hd
    have hdomain := Parameters.InDomain.of_build_real hp
    obtain ⟨plan, h⟩ : ∃ plan, ofHistory history p policy product location now = .ok plan :=
      exists_ofHistory_iff.2
        ⟨hd, hdomain.orderingCost, hdomain.holdingCostRate, hdomain.leadTimeDays.le⟩
    obtain ⟨buffer, hb, hbuffers⟩ := buffers_of_made hdomain hd (made h)
    exact ⟨plan, buffer, h, hb, hbuffers⟩

/-- Two bolts were sold on one day and four on another. -/
noncomputable def twoSales : List (Observation Float) :=
  [⟨boltSale.day, 2, by decide, by decide⟩, ⟨boltDepot.now.day, 4, by decide, by decide⟩]

/-- Two sales have one buffer. A single one has two, which are told apart by what it varies by. -/
theorem safetyStock_boltSales :
    (∃ p plan, Parameters.build ([] : List (String × Raw Float)) = .ok p
      ∧ ofHistory twoSales p {} "bolt" "depot" boltDepot.now = .ok plan
      ∧ Restock.safetyStock twoSales p.targetServiceLevel p.leadTimeDays p.demandVariability
        = .ok plan.safetyStock)
    ∧ ∃ plan buffer, ofHistory [boltSale] dearOrders {} "bolt" "depot" boltDepot.now = .ok plan
      ∧ Restock.safetyStock [boltSale] dearOrders.targetServiceLevel dearOrders.leadTimeDays
          dearOrders.demandVariability = .ok buffer
      ∧ plan.Buffers [boltSale] dearOrders buffer := by
  obtain ⟨hfloat, hreal⟩ := safetyStock_buffers "bolt" "depot" boltDepot.now
  constructor
  · have hbuild : Parameters.build ([] : List (String × Raw Float)) = .ok .default := rfl
    obtain ⟨plan, h, _⟩ := exists_ok_of_any (P := fun _ => true)
      (x := ofHistory twoSales .default {} "bolt" "depot" boltDepot.now) (by decide +kernel)
    exact ⟨_, plan, hbuild, h, hfloat _ _ _ _ plan hbuild (by decide) h⟩
  · exact hreal _ _ _ _ build_dearOrders ⟨boltSale, List.mem_singleton_self _, one_pos⟩

/-- By the default parameters, which take demand to vary by a fifth, a plan for a single sale is
without the buffer that the sale has by itself. -/
theorem safetyStock_ne_buffer :
    ∃ plan buffer, Parameters.build ([] : List (String × Raw ℝ)) = .ok .default
      ∧ (∃ o ∈ [boltSale], 0 < o.quantity)
      ∧ ofHistory [boltSale] .default {} "bolt" "depot" boltDepot.now = .ok plan
      ∧ Restock.safetyStock [boltSale] (Parameters.default : Parameters ℝ).targetServiceLevel
          (Parameters.default : Parameters ℝ).leadTimeDays
          (Parameters.default : Parameters ℝ).demandVariability = .ok buffer
      ∧ plan.safetyStock = 0 ∧ 0 < buffer := by
  have hp : Parameters.build ([] : List (String × Raw ℝ)) = .ok .default := rfl
  have hdomain := Parameters.InDomain.of_build_real hp
  have hsold : ∃ o ∈ [boltSale], 0 < o.quantity := ⟨boltSale, List.mem_singleton_self _, one_pos⟩
  obtain ⟨plan, h⟩ : ∃ plan, ofHistory [boltSale] .default {} "bolt" "depot" boltDepot.now = .ok plan :=
    exists_ofHistory_iff.2
      ⟨hsold, hdomain.orderingCost, hdomain.holdingCostRate, hdomain.leadTimeDays.le⟩
  obtain ⟨buffer, hb, hbuffers⟩ := buffers_of_made hdomain hsold (made h)
  obtain ⟨hzero, hbuffer⟩ := hbuffers.single boltSale rfl
  have hvariability :
      (0 : ℝ) < boltSale.quantity * (Parameters.default : Parameters ℝ).demandVariability := by
    show (0 : ℝ) < 1 * Scalar.fraction 2 1
    norm_num
  have hquantile : 0 < Normal.quantile (Parameters.default : Parameters ℝ).targetServiceLevel := by
    show 0 < Normal.quantile (Scalar.fraction 95 2 : ℝ)
    rw [Scalar.fraction_real]
    exact Normal.quantile_pos (by norm_num) (by norm_num)
  refine ⟨plan, buffer, hp, hsold, h, hb, hzero, ?_⟩
  rw [hbuffer]
  exact lt_max_of_lt_right
    (mul_pos (mul_pos hquantile hvariability) (Real.sqrt_pos.2 hdomain.leadTimeDays))

end StockingPlan

end Restock
