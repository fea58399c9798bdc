import Mathlib.Algebra.BigOperators.Group.List.Basic
import Restock.Proofs.Arithmetic.Exact
import Restock.Proofs.Network.Coverage

/-!
# The summary of a proposal

A proposal sums itself up in two numbers: the share of recorded positions in neither surplus nor
deficit, and what its transfers save. Neither is read off the index or the transfers: the share comes
from a scan of the recorded stocks with a range test of its own, the savings from one amount for each
unit moved. In exact arithmetic they agree with the index and with the lists all the same
(`Proposal.summarizes_ofStock`).
-/

namespace Restock

/-! ## Recorded positions -/

namespace StockMap

variable {α : Type}

/-- The recorded positions of a network: each location with each product recorded at it. -/
def recordedPositions (stock : StockMap α) (locations : List String) : List (String × String) :=
  locations.flatMap fun location => (stock.levels location).keys.map (Prod.mk location)

theorem mem_recordedPositions {stock : StockMap α} {locations : List String}
    {location product : String} :
    (location, product) ∈ stock.recordedPositions locations ↔
      location ∈ locations ∧ product ∈ (stock.levels location).keys := by
  simp [recordedPositions]

theorem nodup_recordedPositions (stock : StockMap α) {locations : List String}
    (hn : locations.Nodup) : (stock.recordedPositions locations).Nodup := by
  refine nodup_flatMap_of_key Prod.fst hn ?_ ?_
  · intro location _
    exact (stock.levels location).nodup.map (Prod.mk_right_injective location)
  · intro location _ position hp
    obtain ⟨_, _, rfl⟩ := List.mem_map.1 hp
    rfl

variable [Scalar α]

theorem positions_eq (stock : StockMap α) (locations : List String) :
    stock.positions locations
      = (stock.recordedPositions locations).map fun position =>
          stock.units position.1 position.2 := by
  simp only [positions, recordedPositions, List.map_flatMap, List.map_map]
  refine List.flatMap_congr fun location _ => ?_
  rw [(stock.levels location).values_eq_map 0]
  rfl

/-- Whether the index of a proposal has a position neither under surplus nor under deficit. -/
def atRest (policy : RebalancingPolicy α) (stock : StockMap α) (locations : List String)
    (position : String × String) : Bool :=
  let listed := distinct locations
  let index := stock.imbalances policy listed (stock.products listed)
  !(index.surplus.locations position.2).contains position.1
    && !(index.deficit.locations position.2).contains position.1

theorem atRest_iff {policy : RebalancingPolicy α} {stock : StockMap α} {locations : List String}
    {location product : String}
    (hp : (location, product) ∈ stock.recordedPositions (distinct locations)) :
    stock.atRest policy locations (location, product) = true ↔
      ¬ policy.surplusThreshold < stock.units location product
        ∧ ¬ stock.units location product < policy.deficitThreshold := by
  obtain ⟨hl, hr⟩ := mem_recordedPositions.1 hp
  have hproduct : product ∈ stock.products (distinct locations) :=
    mem_products.2 ⟨location, hl, hr⟩
  simp only [atRest, Bool.and_eq_true, Bool.not_eq_true', ← Bool.not_eq_true,
    List.contains_iff_mem, RebalancingPolicy.mem_surplus_iff hproduct,
    RebalancingPolicy.mem_deficit_iff hproduct, hl, hr, true_and]

end StockMap

/-! ## The share of positions at rest -/

namespace RebalancingPolicy

variable {policy : RebalancingPolicy ℝ}

/-- The range test is what the two tests of the index leave over, also where the thresholds
overlap. -/
theorem balanced_iff {units : ℝ} :
    policy.balanced units = true ↔
      ¬ policy.surplusThreshold < units ∧ ¬ units < policy.deficitThreshold := by
  rw [balanced, Bool.and_eq_true, decide_eq_true_eq, decide_eq_true_eq, not_lt, not_lt, and_comm]

theorem countP_balanced (stock : StockMap ℝ) (locations : List String) :
    (stock.positions (distinct locations)).countP policy.balanced
      = (stock.recordedPositions (distinct locations)).countP (stock.atRest policy locations) := by
  rw [stock.positions_eq, List.countP_map]
  refine List.countP_congr ?_
  rintro ⟨location, product⟩ hp
  exact balanced_iff.trans (StockMap.atRest_iff hp).symm

theorem efficiency_nil : policy.efficiency [] = 1 := rfl

theorem efficiency_of_ne_nil {positions : List ℝ} (hne : positions ≠ []) :
    policy.efficiency positions = positions.countP policy.balanced / positions.length := by
  rw [efficiency, List.isEmpty_eq_false_iff.2 hne, Scalar.ofNat_real, Scalar.ofNat_real]
  rfl

theorem efficiency_nonneg (positions : List ℝ) : 0 ≤ policy.efficiency positions := by
  rcases eq_or_ne positions [] with rfl | hne
  · exact zero_le_one
  · rw [efficiency_of_ne_nil hne]
    positivity

theorem efficiency_le_one (positions : List ℝ) : policy.efficiency positions ≤ 1 := by
  rcases eq_or_ne positions [] with rfl | hne
  · exact le_refl 1
  · rw [efficiency_of_ne_nil hne]
    refine div_le_one_of_le₀ ?_ (Nat.cast_nonneg _)
    exact_mod_cast List.countP_le_length

theorem efficiency_eq_one_iff {positions : List ℝ} :
    policy.efficiency positions = 1 ↔ ∀ units ∈ positions, policy.balanced units = true := by
  rcases eq_or_ne positions [] with rfl | hne
  · simp [efficiency_nil]
  · have hlength : (positions.length : ℝ) ≠ 0 := by
      exact_mod_cast (List.length_pos_of_ne_nil hne).ne'
    rw [efficiency_of_ne_nil hne, div_eq_one_iff_eq hlength, Nat.cast_inj, List.countP_eq_length]

end RebalancingPolicy

/-! ## The lists behind the summary -/

section
variable {α : Type} [Scalar α] {policy : RebalancingPolicy α} {stock : StockMap α}
  {locations : List String}

namespace RebalancingPolicy

theorem cost_and_benefit {t : Transfer α} (ht : t ∈ policy.networkTransfers stock locations) :
    t.cost = t.quantity * policy.transferCostPerUnit
      ∧ t.benefit = t.quantity * policy.benefitPerUnit := by
  obtain ⟨_, h⟩ := transferBetween?_eq_some.1 (mem_networkTransfers.1 ht).called
  rw [← h]
  exact ⟨rfl, rfl⟩

/-- A transfer takes from a recorded position in surplus. -/
theorem networkTransfers_eq_nil
    (h : ∀ position ∈ stock.recordedPositions (distinct locations),
      stock.atRest policy locations position = true) :
    policy.networkTransfers stock (distinct locations) = [] := by
  refine List.eq_nil_iff_forall_not_mem.2 fun t ht => ?_
  have ht := mem_networkTransfers.1 ht
  have hp := StockMap.mem_recordedPositions.2 ⟨ht.source, ht.recorded⟩
  exact ((StockMap.atRest_iff hp).1 (h _ hp)).1 (transferBetween?_eq_some.1 ht.called).1.1

/-- A procurement fills a recorded position in deficit. -/
theorem networkProcurements_eq_nil
    (h : ∀ position ∈ stock.recordedPositions (distinct locations),
      stock.atRest policy locations position = true) :
    policy.networkProcurements stock (distinct locations) = [] := by
  refine List.eq_nil_iff_forall_not_mem.2 fun q hq => ?_
  obtain ⟨hl, hr, hd, _⟩ := mem_networkProcurements.1 hq
  have hp := StockMap.mem_recordedPositions.2 ⟨hl, hr⟩
  exact ((StockMap.atRest_iff hp).1 (h _ hp)).2 hd

end RebalancingPolicy

end

/-! ## The summary -/

namespace Proposal

/-- How a proposal for a network sums up its recorded positions and its own lists. -/
structure Summarizes (policy : RebalancingPolicy ℝ) (stock : StockMap ℝ) (locations : List String)
    (positions : List (String × String)) (proposal : Proposal ℝ) : Prop where
  /-- The positions are the listed locations with the products recorded at them. -/
  recorded : ∀ location product, (location, product) ∈ positions ↔
    location ∈ locations ∧ ∃ units, stock.recorded? location product = some units
  /-- Every position counts once. -/
  once : positions.Nodup
  /-- A position is at rest when the index has it neither in surplus nor in deficit. -/
  atRest : ∀ location product units, location ∈ locations →
    stock.recorded? location product = some units →
    (stock.atRest policy locations (location, product) = true ↔
      ¬ policy.surplusThreshold < units ∧ ¬ units < policy.deficitThreshold)
  unrecorded : positions = [] → proposal.efficiency = 1
  share : positions ≠ [] →
    proposal.efficiency = positions.countP (stock.atRest policy locations) / positions.length
  range : 0 ≤ proposal.efficiency ∧ proposal.efficiency ≤ 1
  /-- The share is one exactly when every position is at rest. -/
  eq_one_iff : proposal.efficiency = 1 ↔
    ∀ position ∈ positions, stock.atRest policy locations position = true
  /-- Then nothing is proposed. -/
  nothing : proposal.efficiency = 1 → proposal.transfers = [] ∧ proposal.procurements = []
  savings : proposal.savings = (proposal.transfers.map fun t => t.benefit - t.cost).sum

/-- **The summary agrees with the index and with the lists**, whatever the policy. Locations count
once, however often they are listed. -/
theorem summarizes_ofStock (policy : RebalancingPolicy ℝ) (stock : StockMap ℝ)
    (locations : List String) (now : Instant) :
    ∃ positions,
      (ofStock policy stock locations now).Summarizes policy stock locations positions := by
  have hrecorded (location product : String) :
      (location, product) ∈ stock.recordedPositions (distinct locations) ↔
        location ∈ locations ∧ ∃ units, stock.recorded? location product = some units := by
    rw [StockMap.mem_recordedPositions, mem_distinct, Table.mem_keys_iff]
    rfl
  have hefficiency : (ofStock policy stock locations now).efficiency
      = policy.efficiency (stock.positions (distinct locations)) := rfl
  have hone : (ofStock policy stock locations now).efficiency = 1 ↔
      ∀ position ∈ stock.recordedPositions (distinct locations),
        stock.atRest policy locations position = true := by
    rw [hefficiency, RebalancingPolicy.efficiency_eq_one_iff, stock.positions_eq,
      List.forall_mem_map]
    refine forall₂_congr ?_
    rintro ⟨location, product⟩ hp
    exact RebalancingPolicy.balanced_iff.trans (StockMap.atRest_iff hp).symm
  refine ⟨stock.recordedPositions (distinct locations),
    { recorded := hrecorded
      once := stock.nodup_recordedPositions (nodup_distinct locations)
      atRest := ?_
      unrecorded := ?_
      share := ?_
      range := ⟨RebalancingPolicy.efficiency_nonneg _, RebalancingPolicy.efficiency_le_one _⟩
      eq_one_iff := hone
      nothing := ?_
      savings := ?_ }⟩
  · intro location product units hl hr
    rw [StockMap.atRest_iff ((hrecorded location product).2 ⟨hl, units, hr⟩),
      StockMap.units_of_recorded? hr]
  · intro hnil
    rw [hefficiency, stock.positions_eq, hnil]
    rfl
  · intro hne
    have hpositions : stock.positions (distinct locations) ≠ [] := by
      rw [stock.positions_eq]
      simpa using hne
    rw [hefficiency, RebalancingPolicy.efficiency_of_ne_nil hpositions,
      RebalancingPolicy.countP_balanced, stock.positions_eq, List.length_map]
  · intro h
    exact ⟨RebalancingPolicy.networkTransfers_eq_nil (hone.1 h),
      RebalancingPolicy.networkProcurements_eq_nil (hone.1 h)⟩
  · -- what a unit saves is a difference, taken here once and there for each transfer
    show Scalar.sum (List.map _ _) = _
    rw [Scalar.sum_real]
    congr 1
    refine List.map_congr_left fun t ht => ?_
    obtain ⟨hcost, hbenefit⟩ := RebalancingPolicy.cost_and_benefit ht
    rw [hcost, hbenefit, RebalancingPolicy.savingsPerUnit, mul_sub]

end Proposal

end Restock
