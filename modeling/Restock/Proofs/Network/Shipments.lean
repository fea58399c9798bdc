import Mathlib.Algebra.BigOperators.Group.List.Basic
import Restock.Proofs.Arithmetic.Exact
import Restock.Proofs.Network.Coverage

/-!
# What leaves a location

A surplus is offered to every deficit as if there were no other: there is a transfer to each location
that lacks the product, and all of them are of one size, set by the whole stock at the source
(`Proposal.map_shipments`). So what is shipped adds up to that size for each receiving location. Under the
standard policy this is no more than the stock as long as three locations receive at most
(`Proposal.shipped_le_units_iff`); four can be sent more than there is (`Proposal.shipped_fourShops`).
-/

namespace Restock

variable {α : Type} [Scalar α]

namespace StockMap

/-- The other locations of a network that lack a product. -/
def receivers (policy : RebalancingPolicy α) (stock : StockMap α)
    (locations : List String) (source product : String) : List String :=
  (locations.filter (stock.inDeficit policy product)).filter (· ≠ source)

/-- The listed locations other than a source whose stock of a product is below a threshold, each of them
once. -/
structure Lacking (stock : StockMap α) (threshold : α) (locations : List String)
    (source product : String) (receivers : List String) : Prop where
  nodup : receivers.Nodup
  mem_iff : ∀ location, location ∈ receivers ↔
    location ∈ locations ∧ location ≠ source ∧ stock.units location product < threshold

theorem lacking_receivers (policy : RebalancingPolicy α) (stock : StockMap α)
    (locations : List String) (source product : String) :
    stock.Lacking policy.deficitThreshold locations source product
      (stock.receivers policy (distinct locations) source product) where
  nodup := ((nodup_distinct locations).filter _).filter _
  mem_iff location := by
    simp only [receivers, List.mem_filter, mem_distinct, inDeficit, decide_eq_true_eq]
    exact and_assoc.trans (and_congr_right' and_comm)

theorem Lacking.perm {stock : StockMap α} {threshold : α} {locations : List String}
    {source product : String} {receivers receivers' : List String}
    (h : stock.Lacking threshold locations source product receivers)
    (h' : stock.Lacking threshold locations source product receivers') :
    receivers.Perm receivers' :=
  (List.perm_ext_iff_of_nodup h.nodup h'.nodup).2 fun location =>
    (h.mem_iff location).trans (h'.mem_iff location).symm

end StockMap

namespace Proposal

/-- The transfers of a product out of a location. -/
def shipments (proposal : Proposal α) (source product : String) : List (Transfer α) :=
  proposal.transfers.filter fun t => t.source == source && t.product == product

section
variable {policy : RebalancingPolicy α} {stock : StockMap α} {locations : List String}
  {now : Instant} {source product : String}

theorem mem_shipments {t : Transfer α} :
    t ∈ (ofStock policy stock locations now).shipments source product ↔
      (source ∈ distinct locations ∧ policy.Spares stock product source)
        ∧ ∃ destination ∈ stock.receivers policy (distinct locations) source product,
          policy.transfer stock source destination product
            (policy.transferQuantity (stock.units source product)) = t := by
  have hm (t : Transfer α) : t ∈ (ofStock policy stock locations now).transfers
      ↔ policy.Called stock (distinct locations) t := RebalancingPolicy.mem_networkTransfers
  simp only [shipments, List.mem_filter, hm, Bool.and_eq_true, beq_iff_eq, StockMap.receivers,
    StockMap.inDeficit, decide_eq_true_eq]
  constructor
  · rintro ⟨h, rfl, rfl⟩
    obtain ⟨⟨hs, hd, hq⟩, ht⟩ := RebalancingPolicy.transferBetween?_eq_some.1 h.called
    exact ⟨⟨h.source, h.recorded, hs, hq⟩, t.destination, ⟨⟨h.destination, hd⟩, h.distinct⟩, ht⟩
  · rintro ⟨⟨hl, hr, hs, hq⟩, destination, ⟨⟨hd, hlow⟩, hne⟩, rfl⟩
    refine ⟨⟨hl, hd, hne, hr, ?_⟩, rfl, rfl⟩
    exact RebalancingPolicy.transferBetween?_eq_some.2 ⟨⟨hs, hlow, hq⟩, rfl⟩

theorem nodup_shipments : ((ofStock policy stock locations now).shipments source product).Nodup :=
  (RebalancingPolicy.nodup_networkTransfers (nodup_distinct locations)).filter _

/-- **Every receiver is served once.** -/
theorem shipments_perm (hl : source ∈ distinct locations) (hs : policy.Spares stock product source) :
    ((ofStock policy stock locations now).shipments source product).Perm
      ((stock.receivers policy (distinct locations) source product).map fun destination =>
        policy.transfer stock source destination product
          (policy.transferQuantity (stock.units source product))) := by
  have hn : (stock.receivers policy (distinct locations) source product).Nodup :=
    (stock.lacking_receivers policy locations source product).nodup
  refine (List.perm_ext_iff_of_nodup nodup_shipments (hn.map ?_)).2 fun t => ?_
  · intro a b hab
    exact congrArg Transfer.destination hab
  · rw [mem_shipments, List.mem_map]
    exact and_iff_right ⟨hl, hs⟩

theorem shipments_eq_nil (h : ¬ (source ∈ distinct locations ∧ policy.Spares stock product source)) :
    (ofStock policy stock locations now).shipments source product = [] :=
  List.eq_nil_iff_forall_not_mem.2 fun _ ht => h (mem_shipments.1 ht).1

/-- **Each receiver is sent the same**, whatever the others are sent. -/
theorem map_shipments (hl : source ∈ distinct locations) (hs : policy.Spares stock product source) :
    (((ofStock policy stock locations now).shipments source product).map
        fun t => (t.destination, t.quantity)).Perm
      ((stock.receivers policy (distinct locations) source product).map
        fun location => (location, policy.transferQuantity (stock.units source product))) := by
  refine ((shipments_perm hl hs).map fun t => (t.destination, t.quantity)).trans ?_
  rw [List.map_map]
  exact .refl _

/-- Transfers of one quantity to each of some receivers where a condition holds, and none otherwise. -/
structure Ships (receivers : List String) (quantity : α) (sends : Prop)
    (shipments : List (Transfer α)) : Prop where
  each : sends → (shipments.map fun t => (t.destination, t.quantity)).Perm
    (receivers.map fun location => (location, quantity))
  none : ¬ sends → shipments = []

theorem ships_ofStock (policy : RebalancingPolicy α) (stock : StockMap α) (locations : List String)
    (now : Instant) (source product : String) :
    Ships (stock.receivers policy (distinct locations) source product)
      (policy.transferQuantity (stock.units source product))
      (source ∈ locations ∧ policy.Spares stock product source)
      ((ofStock policy stock locations now).shipments source product) where
  each h := map_shipments (mem_distinct.2 h.1) h.2
  none h := shipments_eq_nil fun hs => h ⟨mem_distinct.1 hs.1, hs.2⟩

end

/-! ## Shipments and stock, in exact arithmetic -/

/-- How much of a product leaves a location. -/
noncomputable def shipped (proposal : Proposal ℝ) (source product : String) : ℝ :=
  ((proposal.shipments source product).map Transfer.quantity).sum

section
variable {stock : StockMap ℝ} {locations : List String} {now : Instant} {source product : String}

theorem transferQuantity_standard (units : ℝ) :
    ({} : RebalancingPolicy ℝ).transferQuantity units = min (units * (3 / 10)) 100 := by
  simp only [RebalancingPolicy.transferQuantity, Scalar.min_real, Scalar.fraction_real,
    Scalar.ofNat_real]
  norm_num

/-- Under the standard policy any surplus is enough for a transfer. -/
theorem spares_standard_iff :
    ({} : RebalancingPolicy ℝ).Spares stock product source ↔ 100 < stock.units source product := by
  have hsurplus : ({} : RebalancingPolicy ℝ).surplusThreshold = 100 := Scalar.ofNat_real 100
  have hmin : ({} : RebalancingPolicy ℝ).minTransferQuantity = 10 := Scalar.ofNat_real 10
  rw [RebalancingPolicy.Spares, transferQuantity_standard, hsurplus, hmin, not_le, lt_min_iff]
  constructor
  · rintro ⟨_, hs, _⟩
    exact hs
  · intro hs
    refine ⟨Table.mem_keys_iff.2 ?_, hs, by linarith, by norm_num⟩
    -- what is not recorded counts as nothing, which is no surplus
    cases hr : stock.recorded? source product with
    | some units => exact ⟨units, hr⟩
    | none =>
        rw [StockMap.units, hr] at hs
        exact absurd hs (by norm_num)

theorem lacking_standard (stock : StockMap ℝ) (locations : List String) (source product : String) :
    stock.Lacking 50 locations source product
      (stock.receivers {} (distinct locations) source product) := by
  have hthreshold : ({} : RebalancingPolicy ℝ).deficitThreshold = 50 := Scalar.ofNat_real 50
  have h := stock.lacking_receivers {} locations source product
  exact ⟨h.nodup, fun location => by rw [h.mem_iff, hthreshold]⟩

/-- What is shipped adds up to one quantity for each receiver. -/
theorem Ships.sum_eq {receivers : List String} {quantity : ℝ} {sends : Prop} [Decidable sends]
    {shipments : List (Transfer ℝ)} (h : Ships receivers quantity sends shipments) :
    (shipments.map Transfer.quantity).sum = if sends then receivers.length * quantity else 0 := by
  split
  · next hs =>
      have hsum := ((h.each hs).map Prod.snd).sum_eq
      rw [List.map_map, List.map_map] at hsum
      calc (shipments.map Transfer.quantity).sum
          = (receivers.map fun _ => quantity).sum := hsum
        _ = receivers.length * quantity := by
            rw [List.map_const', List.sum_replicate, nsmul_eq_mul]
  · next hs =>
      rw [h.none hs]
      rfl

theorem shipments_standard (stock : StockMap ℝ) (locations : List String) (now : Instant)
    (source product : String) :
    Ships (stock.receivers {} (distinct locations) source product)
      (min (stock.units source product * (3 / 10)) 100)
      (source ∈ locations ∧ 100 < stock.units source product)
      ((ofStock {} stock locations now).shipments source product) := by
  have h := ships_ofStock {} stock locations now source product
  rwa [spares_standard_iff, transferQuantity_standard] at h

/-- **What leaves a location, and when there is enough of it.** Under the standard policy, and in any
number system, each receiving location is sent three tenths of the stock, or a hundred units where that
is less, out of a surplus that has as much to give. In exact arithmetic every surplus has; what is sent is
covered by the stock exactly when so many times that quantity is, and always when three locations
receive at most. -/
theorem shipped_le_units_iff (locations : List String) (now : Instant) (source product : String) :
    (∀ (α : Type) [Scalar α] (stock : StockMap α),
      let units := stock.units source product
      let quantity := Scalar.min (units * Scalar.fraction 3 1) (Scalar.ofNat 100)
      ∃ receivers, stock.Lacking (Scalar.ofNat 50) locations source product receivers
        ∧ Ships receivers quantity
          (source ∈ locations ∧ product ∈ (stock.levels source).keys ∧ Scalar.ofNat 100 < units
            ∧ ¬ quantity ≤ Scalar.ofNat 10)
          ((ofStock {} stock locations now).shipments source product))
    ∧ ∀ stock : StockMap ℝ,
      (∀ location product units, stock.recorded? location product = some units → 0 ≤ units) →
      let shipped := (ofStock {} stock locations now).shipped source product
      let units := stock.units source product
      let quantity := min (units * (3 / 10)) 100
      ∃ receivers, stock.Lacking 50 locations source product receivers
        ∧ Ships receivers quantity (source ∈ locations ∧ 100 < units)
          ((ofStock {} stock locations now).shipments source product)
        ∧ shipped = (if source ∈ locations ∧ 100 < units then receivers.length * quantity else 0)
        ∧ (shipped ≤ units ↔
          (source ∈ locations → 100 < units → receivers.length * quantity ≤ units))
        ∧ (receivers.length ≤ 3 → shipped ≤ units) := by
  refine ⟨?_, ?_⟩
  · intro α _ stock units quantity
    exact ⟨_, stock.lacking_receivers {} locations source product,
      ships_ofStock {} stock locations now source product⟩
  · intro stock hs shipped units quantity
    let receivers := stock.receivers {} (distinct locations) source product
    have hships := shipments_standard stock locations now source product
    have heq : shipped = if source ∈ locations ∧ 100 < units then receivers.length * quantity else 0 :=
      hships.sum_eq
    have hunits : 0 ≤ units := by
      show 0 ≤ (stock.recorded? source product).getD 0
      cases hr : stock.recorded? source product with
      | none => exact le_refl 0
      | some units => exact hs source product units hr
    have hiff : shipped ≤ units ↔
        (source ∈ locations → 100 < units → receivers.length * quantity ≤ units) := by
      rw [heq, ← and_imp]
      split
      · next h => exact ⟨fun hle _ => hle, fun himp => himp h⟩
      · next h => exact ⟨fun _ hc => absurd hc h, fun _ => hunits⟩
    refine ⟨receivers, lacking_standard stock locations source product, hships, heq, hiff, ?_⟩
    intro hcount
    refine hiff.2 fun _ _ => ?_
    calc (receivers.length : ℝ) * quantity
        ≤ 3 * (units * (3 / 10)) := by
          have hc : (receivers.length : ℝ) ≤ 3 := by exact_mod_cast hcount
          have hq : 0 ≤ quantity := le_min (by positivity) (by norm_num)
          exact mul_le_mul hc (min_le_left _ _) hq (by norm_num)
      _ ≤ units := by linarith

end

/-! ## One depot and its shops -/

/-- A depot with 110 bolts. Its shops have none on record. -/
def boltSurplus : StockMap ℝ :=
  ⟨[("depot", ⟨[("bolt", 110)], List.nodup_singleton _⟩)], List.nodup_singleton _⟩

/-- Noon of 30 June 2024. -/
def stocktaking : Instant := ⟨⟨739067, by decide, by decide⟩, 12, 0, 0, 0, 0⟩

theorem recorded?_boltSurplus (location product : String) :
    boltSurplus.recorded? location product
      = if location = "depot" ∧ product = "bolt" then some 110 else none := by
  by_cases hl : location = "depot"
  · by_cases hp : product = "bolt" <;>
      simp [boltSurplus, StockMap.recorded?, StockMap.levels, Table.get?, lookup_cons, hl, hp]
  · simp [boltSurplus, StockMap.recorded?, StockMap.levels, Table.get?, lookup_cons, Table.empty, hl]

theorem nonneg_of_recorded?_boltSurplus (location product : String) (units : ℝ)
    (h : boltSurplus.recorded? location product = some units) : 0 ≤ units := by
  rw [recorded?_boltSurplus] at h
  split at h
  · cases h
    norm_num
  · cases h

/-- All shops lack bolts, and the depot does not. -/
theorem receivers_boltSurplus (locations : List String) :
    boltSurplus.receivers {} locations "depot" "bolt" = locations.filter (· ≠ "depot") := by
  rw [StockMap.receivers, List.filter_filter]
  refine List.filter_congr fun location _ => ?_
  by_cases hl : location = "depot"
  · simp [hl]
  · simp [hl, StockMap.inDeficit, StockMap.units, recorded?_boltSurplus]

/-- Three shops are sent 33 bolts each, which leaves eleven at the depot. -/
theorem shipped_threeShops :
    let proposal := ofStock {} boltSurplus ["depot", "north", "south", "east"] stocktaking
    ((proposal.shipments "depot" "bolt").map fun t => (t.destination, t.quantity)).Perm
        [("north", 33), ("south", 33), ("east", 33)]
      ∧ proposal.shipped "depot" "bolt" = 99
      ∧ proposal.shipped "depot" "bolt" ≤ boltSurplus.units "depot" "bolt" := by
  have hunits : boltSurplus.units "depot" "bolt" = 110 := by
    simp [StockMap.units, recorded?_boltSurplus]
  have hquantity : min (110 * (3 / 10)) 100 = (33 : ℝ) := by norm_num
  have hreceivers : boltSurplus.Lacking 50 ["depot", "north", "south", "east"] "depot" "bolt"
      ["north", "south", "east"] := by
    have h := lacking_standard boltSurplus ["depot", "north", "south", "east"] "depot" "bolt"
    rwa [receivers_boltSurplus] at h
  obtain ⟨receivers, hlacking, hships, heq, -, hle⟩ := (shipped_le_units_iff
    ["depot", "north", "south", "east"] stocktaking "depot" "bolt").2 boltSurplus
    nonneg_of_recorded?_boltSurplus
  have hperm := hlacking.perm hreceivers
  rw [hunits, hquantity] at hships heq
  rw [hperm.length_eq] at heq
  refine ⟨(hships.each (by norm_num)).trans (hperm.map _), heq.trans (by norm_num), hle ?_⟩
  exact hperm.length_eq.le

/-- **Four shops are sent more than the depot has**: 33 bolts each, of 110. -/
theorem shipped_fourShops :
    let proposal := ofStock {} boltSurplus ["depot", "north", "south", "east", "west"] stocktaking
    (∀ location product units, boltSurplus.recorded? location product = some units → 0 ≤ units)
      ∧ proposal.shipped "depot" "bolt" = 132
      ∧ ¬ proposal.shipped "depot" "bolt" ≤ boltSurplus.units "depot" "bolt" := by
  have hunits : boltSurplus.units "depot" "bolt" = 110 := by
    simp [StockMap.units, recorded?_boltSurplus]
  have hcount : (boltSurplus.receivers {} (distinct ["depot", "north", "south", "east", "west"])
      "depot" "bolt").length = 4 := by
    rw [receivers_boltSurplus]
    decide
  have heq : (ofStock {} boltSurplus ["depot", "north", "south", "east", "west"]
      stocktaking).shipped "depot" "bolt" = 132 := by
    refine (shipments_standard boltSurplus _ stocktaking "depot" "bolt").sum_eq.trans ?_
    rw [hcount, hunits]
    norm_num
  refine ⟨nonneg_of_recorded?_boltSurplus, heq, ?_⟩
  show ¬ (ofStock {} boltSurplus ["depot", "north", "south", "east", "west"]
    stocktaking).shipped "depot" "bolt" ≤ _
  rw [heq, hunits]
  norm_num

end Proposal

end Restock
